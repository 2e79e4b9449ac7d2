import AuthProxy.Configuration.Field
import AuthProxy.Fault
import AuthProxy.Url.Reader

/-!
# The checks of a configuration

What a configuration must satisfy to be used. The sections are checked in a fixed order and the first fault found is
reported, wrapped with the labels of the sections that lead to it. The time limits of the listener and of sessions, the
defaults of upstreams, the logging and the signing key are free, so that their sections always pass.
-/

namespace AuthProxy

open Text

namespace Check

/-- A field that is not empty; an empty one counts as missing. -/
def present (field value : String) : Except Fault Unit :=
  if value = "" then .error (.missing field) else .ok ()

/-- A field that is not empty; an empty one counts as a value that cannot be used. -/
def nonempty (field value : String) : Except Fault Unit :=
  if value = "" then .error (.invalidValue field value) else .ok ()

/-- A port other than zero. -/
def openPort (field : String) (port : UInt16) : Except Fault Unit :=
  if port = 0 then .error (.missing field) else .ok ()

/-- A field that holds a URL with a host. -/
def absoluteUrl (field value : String) : Except Fault Unit := do
  nonempty field value
  match Url.parse value.toList with
  | .error cause => .error (.malformedUrl field cause)
  | .ok url => if url.host.isNone then .error (.incompleteUrl field) else .ok ()

/-- The result of checking a section, with its fault wrapped in the label of the section. -/
def within (label : String) (x : Except Fault α) : Except Fault α :=
  x.mapError (.inSection label)

/-- A character that a token in a header may have. -/
def isTokenChar (c : Char) : Bool :=
  c.isAlphanum || "!#$%&'*+-.^_\x60|~".toList.contains c

/-- The numbers of bytes that a key may have. -/
def keyLengths : List Nat := [32, 64]

end Check

open Check

/-- The port is needed. -/
def Server.check (s : Server) : Except Fault Unit :=
  openPort "server.port" s.port

/-- The type, the slug and both URLs are needed. -/
def Provider.check (p : Provider) : Except Fault Unit := do
  nonempty "provider.type" p.type
  nonempty "provider.slug" p.slug
  absoluteUrl "provider.url_external" p.urlExternal
  absoluteUrl "provider.url_internal" p.urlInternal

/-- The key that the secret of the cookie encodes, which must have one of the allowed lengths. -/
def Cookie.key (c : Cookie) : Except Fault Bytes :=
  if c.secret = "" then .error (.missing "cookie.secret")
  else
    match Secret.decode (encodeUtf8 c.secret.toList) with
    | .error cause => .error (.malformedSecret cause)
    | .ok key => if key.length ∈ keyLengths then .ok key else .error (.secretLength key.length)

/-- Whether a text can name a cookie: a token, which has at least one character. -/
def Cookie.isName (name : String) : Bool :=
  name ≠ "" && name.toList.all isTokenChar

/-- The secret is needed, and then a name. -/
def Cookie.check (c : Cookie) : Except Fault Unit := do
  let _ ← c.key
  if Cookie.isName c.name then .ok () else .error (.invalidValue "cookie.name" c.name)

def Session.check (s : Session) : Except Fault Unit :=
  within "session.cookie" s.cookie.check

/-- Both credentials are needed. -/
def Client.check (c : Client) : Except Fault Unit := do
  present "client.id" c.id
  present "client.secret" c.secret

/-- The file of the upstreams, if one is named, can be opened. -/
def Upstream.checkFile (fs : FileSystem) (u : Upstream) : Except Fault Unit :=
  match u.configsFile with
  | none => .ok ()
  | some path =>
    if path = "" then .ok ()
    else
      match fs.openFault? (encodeUtf8 path.toList) with
      | none => .ok ()
      | some cause => .error (.unopenableFile "upstream.configs_file" path cause)

/-- The file of the upstreams must be there if it is named, and the cluster is needed. -/
def Upstream.check (fs : FileSystem) (u : Upstream) : Except Fault Unit := do
  u.checkFile fs
  present "upstream.cluster" u.cluster

/-- Host and port are needed. -/
def Statsd.check (s : Statsd) : Except Fault Unit := do
  present "statsd.host" s.host
  openPort "statsd.port" s.port

def Metrics.check (m : Metrics) : Except Fault Unit :=
  within "metrics.statsd" m.statsd.check

/-- Every section passes its check. -/
def Configuration.check (fs : FileSystem) (c : Configuration) : Except Fault Unit := do
  within "server" c.server.check
  within "provider" c.provider.check
  within "session" c.session.check
  within "client" c.client.check
  within "upstream" (c.upstream.check fs)
  within "metrics" c.metrics.check

/-- The check of one section, without the labels of the sections around it. -/
def Section.check (fs : FileSystem) (c : Configuration) : Section → Except Fault Unit
  | root => c.check fs
  | server => c.server.check
  | provider => c.provider.check
  | client => c.client.check
  | session => c.session.check
  | cookie => c.session.cookie.check
  | upstream => c.upstream.check fs
  | metrics => c.metrics.check
  | statsd => c.metrics.statsd.check
  | serverTimeout | ttl | upstreamDefault | email | logging | requestSigner => .ok ()

end AuthProxy
