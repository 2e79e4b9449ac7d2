import AuthProxy.Configuration.Basic

/-!
# The fields of a configuration

The 35 fields that hold a value, each with its kind, its section and its place there. A field is read with
`Field.get` and written with `Field.set`; `get_set` says that a written value is read back and `get_set_of_ne` that
no other field changes. The external form of a configuration (its keys, its tables, the order in them) is described
by the tables of this module alone.
-/

namespace AuthProxy

/-- The kinds of values that fields hold. -/
inductive Kind where
  | text | flag | port | duration | texts | path
deriving Repr, DecidableEq

/-- The values of a kind; a path may be absent. -/
@[reducible] def Kind.Value : Kind → Type
  | text => String
  | flag => Bool
  | port => UInt16
  | duration => Duration
  | texts => List String
  | path => Option String

instance instDecidableEqKindValue : (k : Kind) → DecidableEq k.Value
  | .text => inferInstanceAs (DecidableEq String)
  | .flag => inferInstanceAs (DecidableEq Bool)
  | .port => inferInstanceAs (DecidableEq UInt16)
  | .duration => inferInstanceAs (DecidableEq Duration)
  | .texts => inferInstanceAs (DecidableEq (List String))
  | .path => inferInstanceAs (DecidableEq (Option String))

/-- The sections of a configuration, each before the sections within it. -/
inductive Section where
  | root | server | serverTimeout | provider | client | session | cookie | ttl
  | upstream | upstreamDefault | email | metrics | statsd | logging | requestSigner
deriving Repr, DecidableEq

/-- One step on the way from the root to a field: out of the section called `title`, whose entry number
    `position` it is, by the name `key`. -/
structure Step where
  title : String
  position : Nat
  key : String
deriving Repr, DecidableEq

namespace Section

def all : List Section :=
  [root, server, serverTimeout, provider, client, session, cookie, ttl, upstream, upstreamDefault, email,
   metrics, statsd, logging, requestSigner]

/-- The name of a section in messages on values that cannot be one. -/
def title : Section → String
  | root => "Configuration"
  | server => "ServerConfig"
  | serverTimeout => "TimeoutConfig"
  | provider => "ProviderConfig"
  | client => "ClientConfig"
  | session => "SessionConfig"
  | cookie => "CookieConfig"
  | ttl => "TTLConfig"
  | upstream => "UpstreamConfigs"
  | upstreamDefault => "DefaultConfig"
  | email => "EmailConfig"
  | metrics => "MetricsConfig"
  | statsd => "StatsdConfig"
  | logging => "LoggingConfig"
  | requestSigner => "RequestSignerConfig"

/-- A step out of a section. -/
def step (s : Section) (position : Nat) (key : String) : Step :=
  ⟨s.title, position, key⟩

/-- The steps from the root to a section. -/
def route : Section → List Step
  | root => []
  | server => [root.step 0 "server"]
  | serverTimeout => [root.step 0 "server", server.step 1 "timeout"]
  | provider => [root.step 1 "provider"]
  | client => [root.step 2 "client"]
  | session => [root.step 3 "session"]
  | cookie => [root.step 3 "session", session.step 0 "cookie"]
  | ttl => [root.step 3 "session", session.step 1 "ttl"]
  | upstream => [root.step 4 "upstream"]
  | upstreamDefault => [root.step 4 "upstream", upstream.step 0 "default"]
  | email => [root.step 4 "upstream", upstream.step 0 "default", upstreamDefault.step 0 "email"]
  | metrics => [root.step 5 "metrics"]
  | statsd => [root.step 5 "metrics", metrics.step 0 "statsd"]
  | logging => [root.step 6 "logging"]
  | requestSigner => [root.step 7 "requestsigner"]

/-- The keys from the root to a section. -/
def path (s : Section) : List String :=
  s.route.map (·.key)

end Section

/-- The fields of a configuration, in the order of their sections and of their places there. -/
inductive Field where
  | serverPort
  | serverTimeoutWrite | serverTimeoutRead | serverTimeoutShutdown
  | providerType | providerSlug | providerScope | providerUrlExternal | providerUrlInternal
  | providerSkipAuthPreflight
  | clientId | clientSecret
  | cookieName | cookieSecret | cookieExpire | cookieDomain | cookieSecure | cookieHttpOnly
  | ttlLifetime | ttlValid | ttlGracePeriod
  | emailDomains | emailAddresses
  | upstreamGroups | upstreamProviderSlug | upstreamTimeout | upstreamResetDeadline
  | upstreamConfigsFile | upstreamCluster | upstreamScheme
  | statsdHost | statsdPort
  | loggingEnable | loggingLevel
  | requestSignerKey
deriving Repr, DecidableEq

/-- Where a field stands: its section, its position and name there, and the kind of its values. -/
structure Placement where
  owner : Section
  position : Nat
  key : String
  kind : Kind

namespace Field

def all : List Field :=
  [serverPort,
   serverTimeoutWrite, serverTimeoutRead, serverTimeoutShutdown,
   providerType, providerSlug, providerScope, providerUrlExternal, providerUrlInternal,
   providerSkipAuthPreflight,
   clientId, clientSecret,
   cookieName, cookieSecret, cookieExpire, cookieDomain, cookieSecure, cookieHttpOnly,
   ttlLifetime, ttlValid, ttlGracePeriod,
   emailDomains, emailAddresses,
   upstreamGroups, upstreamProviderSlug, upstreamTimeout, upstreamResetDeadline,
   upstreamConfigsFile, upstreamCluster, upstreamScheme,
   statsdHost, statsdPort,
   loggingEnable, loggingLevel,
   requestSignerKey]

theorem mem_all (f : Field) : f ∈ all := by
  cases f <;> decide

theorem all_nodup : all.Nodup := by
  decide

/-- Where each field stands. -/
@[reducible] def placement : Field → Placement
  | serverPort => ⟨.server, 0, "port", .port⟩
  | serverTimeoutWrite => ⟨.serverTimeout, 0, "write", .duration⟩
  | serverTimeoutRead => ⟨.serverTimeout, 1, "read", .duration⟩
  | serverTimeoutShutdown => ⟨.serverTimeout, 2, "shutdown", .duration⟩
  | providerType => ⟨.provider, 0, "type", .text⟩
  | providerSlug => ⟨.provider, 1, "slug", .text⟩
  | providerScope => ⟨.provider, 2, "scope", .text⟩
  | providerUrlExternal => ⟨.provider, 3, "url_external", .text⟩
  | providerUrlInternal => ⟨.provider, 4, "url_internal", .text⟩
  | providerSkipAuthPreflight => ⟨.provider, 5, "skip_auth_preflight", .flag⟩
  | clientId => ⟨.client, 0, "id", .text⟩
  | clientSecret => ⟨.client, 1, "secret", .text⟩
  | cookieName => ⟨.cookie, 0, "name", .text⟩
  | cookieSecret => ⟨.cookie, 1, "secret", .text⟩
  | cookieExpire => ⟨.cookie, 2, "expire", .duration⟩
  | cookieDomain => ⟨.cookie, 3, "domain", .text⟩
  | cookieSecure => ⟨.cookie, 4, "secure", .flag⟩
  | cookieHttpOnly => ⟨.cookie, 5, "httponly", .flag⟩
  | ttlLifetime => ⟨.ttl, 0, "lifetime", .duration⟩
  | ttlValid => ⟨.ttl, 1, "valid", .duration⟩
  | ttlGracePeriod => ⟨.ttl, 2, "grace_period", .duration⟩
  | emailDomains => ⟨.email, 0, "domains", .texts⟩
  | emailAddresses => ⟨.email, 1, "addresses", .texts⟩
  | upstreamGroups => ⟨.upstreamDefault, 1, "groups", .texts⟩
  | upstreamProviderSlug => ⟨.upstreamDefault, 2, "provider_slug", .text⟩
  | upstreamTimeout => ⟨.upstreamDefault, 3, "timeout", .duration⟩
  | upstreamResetDeadline => ⟨.upstreamDefault, 4, "reset_deadline", .duration⟩
  | upstreamConfigsFile => ⟨.upstream, 1, "configs_file", .path⟩
  | upstreamCluster => ⟨.upstream, 2, "cluster", .text⟩
  | upstreamScheme => ⟨.upstream, 3, "scheme", .text⟩
  | statsdHost => ⟨.statsd, 0, "host", .text⟩
  | statsdPort => ⟨.statsd, 1, "port", .port⟩
  | loggingEnable => ⟨.logging, 0, "enable", .flag⟩
  | loggingLevel => ⟨.logging, 1, "level", .text⟩
  | requestSignerKey => ⟨.requestSigner, 0, "key", .text⟩

/-- The section that a field belongs to. -/
def owner (f : Field) : Section := f.placement.owner

/-- The name of a field in its section. -/
def key (f : Field) : String := f.placement.key

/-- The kind of a field's values. -/
@[reducible] def kind (f : Field) : Kind := f.placement.kind

/-- The values that a field holds. -/
@[reducible] def Value (f : Field) : Type := f.kind.Value

/-- The steps from the root to a field. -/
def route (f : Field) : List Step :=
  f.owner.route ++ [f.owner.step f.placement.position f.key]

/-- The keys from the root to a field. -/
def path (f : Field) : List String :=
  f.route.map (·.key)

/-- The path of a field as it is written, with points. -/
def dotted (f : Field) : String :=
  ".".intercalate f.path

/-- The value of a field. -/
def get (c : Configuration) : (f : Field) → f.Value
  | serverPort => c.server.port
  | serverTimeoutWrite => c.server.timeouts.write
  | serverTimeoutRead => c.server.timeouts.read
  | serverTimeoutShutdown => c.server.timeouts.shutdown
  | providerType => c.provider.type
  | providerSlug => c.provider.slug
  | providerScope => c.provider.scope
  | providerUrlExternal => c.provider.urlExternal
  | providerUrlInternal => c.provider.urlInternal
  | providerSkipAuthPreflight => c.provider.skipAuthPreflight
  | clientId => c.client.id
  | clientSecret => c.client.secret
  | cookieName => c.session.cookie.name
  | cookieSecret => c.session.cookie.secret
  | cookieExpire => c.session.cookie.expire
  | cookieDomain => c.session.cookie.domain
  | cookieSecure => c.session.cookie.secure
  | cookieHttpOnly => c.session.cookie.httpOnly
  | ttlLifetime => c.session.ttl.lifetime
  | ttlValid => c.session.ttl.valid
  | ttlGracePeriod => c.session.ttl.gracePeriod
  | emailDomains => c.upstream.defaults.email.domains
  | emailAddresses => c.upstream.defaults.email.addresses
  | upstreamGroups => c.upstream.defaults.groups
  | upstreamProviderSlug => c.upstream.defaults.providerSlug
  | upstreamTimeout => c.upstream.defaults.timeout
  | upstreamResetDeadline => c.upstream.defaults.resetDeadline
  | upstreamConfigsFile => c.upstream.configsFile
  | upstreamCluster => c.upstream.cluster
  | upstreamScheme => c.upstream.scheme
  | statsdHost => c.metrics.statsd.host
  | statsdPort => c.metrics.statsd.port
  | loggingEnable => c.logging.enable
  | loggingLevel => c.logging.level
  | requestSignerKey => c.requestSigner.key

/-- The configuration with the value of one field replaced. -/
def set (c : Configuration) : (f : Field) → f.Value → Configuration
  | serverPort, v => { c with server.port := v }
  | serverTimeoutWrite, v => { c with server.timeouts.write := v }
  | serverTimeoutRead, v => { c with server.timeouts.read := v }
  | serverTimeoutShutdown, v => { c with server.timeouts.shutdown := v }
  | providerType, v => { c with provider.type := v }
  | providerSlug, v => { c with provider.slug := v }
  | providerScope, v => { c with provider.scope := v }
  | providerUrlExternal, v => { c with provider.urlExternal := v }
  | providerUrlInternal, v => { c with provider.urlInternal := v }
  | providerSkipAuthPreflight, v => { c with provider.skipAuthPreflight := v }
  | clientId, v => { c with client.id := v }
  | clientSecret, v => { c with client.secret := v }
  | cookieName, v => { c with session.cookie.name := v }
  | cookieSecret, v => { c with session.cookie.secret := v }
  | cookieExpire, v => { c with session.cookie.expire := v }
  | cookieDomain, v => { c with session.cookie.domain := v }
  | cookieSecure, v => { c with session.cookie.secure := v }
  | cookieHttpOnly, v => { c with session.cookie.httpOnly := v }
  | ttlLifetime, v => { c with session.ttl.lifetime := v }
  | ttlValid, v => { c with session.ttl.valid := v }
  | ttlGracePeriod, v => { c with session.ttl.gracePeriod := v }
  | emailDomains, v => { c with upstream.defaults.email.domains := v }
  | emailAddresses, v => { c with upstream.defaults.email.addresses := v }
  | upstreamGroups, v => { c with upstream.defaults.groups := v }
  | upstreamProviderSlug, v => { c with upstream.defaults.providerSlug := v }
  | upstreamTimeout, v => { c with upstream.defaults.timeout := v }
  | upstreamResetDeadline, v => { c with upstream.defaults.resetDeadline := v }
  | upstreamConfigsFile, v => { c with upstream.configsFile := v }
  | upstreamCluster, v => { c with upstream.cluster := v }
  | upstreamScheme, v => { c with upstream.scheme := v }
  | statsdHost, v => { c with metrics.statsd.host := v }
  | statsdPort, v => { c with metrics.statsd.port := v }
  | loggingEnable, v => { c with logging.enable := v }
  | loggingLevel, v => { c with logging.level := v }
  | requestSignerKey, v => { c with requestSigner.key := v }

/-- A written value is read back. -/
theorem get_set (c : Configuration) (f : Field) (v : f.Value) : get (set c f v) f = v := by
  cases f <;> rfl

/-- Writing what is there changes nothing. -/
theorem set_get (c : Configuration) (f : Field) : set c f (get c f) = c := by
  cases f <;> rfl

/-- Writing to one field leaves the others as they are. -/
theorem get_set_of_ne (c : Configuration) {f g : Field} (v : f.Value) (h : g ≠ f) :
    get (set c f v) g = get c g := by
  cases f <;> cases g <;> first | rfl | exact absurd rfl h

end Field

/-- A configuration is the values of its fields. -/
theorem Configuration.ext_field {c d : Configuration} (h : ∀ f, Field.get c f = Field.get d f) : c = d := by
  have hall : ∀ f ∈ Field.all, Field.get c f = Field.get d f := fun f _ => h f
  simp only [Field.all, List.forall_mem_cons, Field.get] at hall
  rcases c with ⟨⟨_, ⟨_, _, _⟩⟩, ⟨_, _, _, _, _, _⟩, ⟨_, _⟩, ⟨⟨_, _, _, _, _, _⟩, ⟨_, _, _⟩⟩,
    ⟨⟨⟨_, _⟩, _, _, _, _⟩, _, _, _⟩, ⟨⟨_, _⟩⟩, ⟨_, _⟩, ⟨_⟩⟩
  rcases d with ⟨⟨_, ⟨_, _, _⟩⟩, ⟨_, _, _, _, _, _⟩, ⟨_, _⟩, ⟨⟨_, _, _, _, _, _⟩, ⟨_, _, _⟩⟩,
    ⟨⟨⟨_, _⟩, _, _, _, _⟩, _, _, _⟩, ⟨⟨_, _⟩⟩, ⟨_, _⟩, ⟨_⟩⟩
  simp_all

end AuthProxy
