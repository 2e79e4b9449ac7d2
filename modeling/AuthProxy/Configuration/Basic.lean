import AuthProxy.Duration.Basic

/-!
# The configuration of the proxy

The sections of a configuration with their built-in defaults. The defaults leave the secrets, the provider URLs,
the client credentials and the upstream cluster empty, so that they never pass the checks by themselves.
`Configuration.redacted` hides the secrets.
-/

namespace AuthProxy

/-! ## Default values -/

namespace Defaults

def port : UInt16 :=
  4180

def serverTimeout : Duration :=
  .ofSeconds 30

def providerType : String :=
  "sso"

def providerSlug : String :=
  "google"

def cookieName : String :=
  "_sso_proxy"

def cookieExpire : Duration :=
  .ofSeconds 604800

def ttlLifetime : Duration :=
  .ofSeconds 2592000

def ttlValid : Duration :=
  .ofSeconds 60

def ttlGracePeriod : Duration :=
  .ofSeconds 10800

def upstreamScheme : String :=
  "https"

def upstreamTimeout : Duration :=
  .ofSeconds 10

def upstreamResetDeadline : Duration :=
  .ofSeconds 60

def statsdHost : String :=
  "localhost"

def statsdPort : UInt16 :=
  8125

def logLevel : String :=
  "INFO"

end Defaults

/-! ## Sections -/

/-- Time limits of the HTTP listener. -/
structure ServerTimeouts where
  write : Duration := Defaults.serverTimeout
  read : Duration := Defaults.serverTimeout
  shutdown : Duration := Defaults.serverTimeout
deriving Repr, DecidableEq

/-- The HTTP listener. -/
structure Server where
  port : UInt16 := Defaults.port
  timeouts : ServerTimeouts := {}
deriving Repr, DecidableEq

/-- The identity provider. -/
structure Provider where
  type : String := Defaults.providerType
  slug : String := Defaults.providerSlug
  scope : String := ""
  urlExternal : String := ""
  urlInternal : String := ""
  skipAuthPreflight : Bool := false
deriving Repr, DecidableEq

/-- The credentials of the proxy at the provider. -/
structure Client where
  id : String := ""
  secret : String := ""
deriving Repr, DecidableEq

/-- The session cookie; the secret is the base64 text of its key. -/
structure Cookie where
  name : String := Defaults.cookieName
  secret : String := ""
  expire : Duration := Defaults.cookieExpire
  domain : String := ""
  secure : Bool := true
  httpOnly : Bool := true
deriving Repr, DecidableEq

/-- How long a session lives, is trusted, and outlasts an unreachable provider. -/
structure SessionTtl where
  lifetime : Duration := Defaults.ttlLifetime
  valid : Duration := Defaults.ttlValid
  gracePeriod : Duration := Defaults.ttlGracePeriod
deriving Repr, DecidableEq

structure Session where
  cookie : Cookie := {}
  ttl : SessionTtl := {}
deriving Repr, DecidableEq

/-- Access rules on email addresses. -/
structure EmailRules where
  domains : List String := []
  addresses : List String := []
deriving Repr, DecidableEq

/-- What an upstream gets where it says nothing itself. -/
structure UpstreamDefaults where
  email : EmailRules := {}
  groups : List String := []
  providerSlug : String := ""
  timeout : Duration := Defaults.upstreamTimeout
  resetDeadline : Duration := Defaults.upstreamResetDeadline
deriving Repr, DecidableEq

/-- The upstream services. -/
structure Upstream where
  defaults : UpstreamDefaults := {}
  configsFile : Option String := none
  cluster : String := ""
  scheme : String := Defaults.upstreamScheme
deriving Repr, DecidableEq

/-- The sink of the metrics. -/
structure Statsd where
  host : String := Defaults.statsdHost
  port : UInt16 := Defaults.statsdPort
deriving Repr, DecidableEq

structure Metrics where
  statsd : Statsd := {}
deriving Repr, DecidableEq

/-- Whether the process logs, and the filter it logs by. -/
structure Logging where
  enable : Bool := true
  level : String := Defaults.logLevel
deriving Repr, DecidableEq

/-- The key that requests to upstreams are signed with. -/
structure RequestSigner where
  key : String := ""
deriving Repr, DecidableEq

/-- A whole configuration. -/
structure Configuration where
  server : Server := {}
  provider : Provider := {}
  client : Client := {}
  session : Session := {}
  upstream : Upstream := {}
  metrics : Metrics := {}
  logging : Logging := {}
  requestSigner : RequestSigner := {}
deriving Repr, DecidableEq

/-- The address the proxy listens on: its port on all interfaces. -/
def Server.listenAddress (s : Server) : String :=
  "0.0.0.0:" ++ toString s.port.toNat

/-- Host and port of the sink. -/
def Statsd.address (s : Statsd) : String :=
  s.host ++ ":" ++ toString s.port.toNat

namespace Configuration

/-- The built-in configuration. -/
def default : Configuration := {}

/-- What is shown in the place of a secret. -/
def placeholder : String := "<redacted>"

/-- A secret as it is shown: hidden, unless it is empty. -/
def hide (secret : String) : String :=
  if secret = "" then "" else placeholder

/-- The configuration with its three secrets hidden; an empty one stays visible as empty. -/
def redacted (c : Configuration) : Configuration :=
  { c with
    session.cookie.secret := hide c.session.cookie.secret
    client.secret := hide c.client.secret
    requestSigner.key := hide c.requestSigner.key }

theorem hide_hide (s : String) : hide (hide s) = hide s := by
  by_cases h : s = "" <;> simp [hide, h, placeholder]

theorem hide_eq_empty_iff {s : String} : hide s = "" ↔ s = "" := by
  by_cases h : s = "" <;> simp [hide, h, placeholder]

theorem redacted_redacted (c : Configuration) : c.redacted.redacted = c.redacted := by
  simp [redacted, hide_hide]

end Configuration

end AuthProxy
