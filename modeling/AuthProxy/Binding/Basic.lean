import AuthProxy.Configuration.Field
import AuthProxy.Duration.Reader
import AuthProxy.Fault
import AuthProxy.Text.Split

/-!
# Variables bound to fields

Every field can be set by a variable. The table says by which: the names follow no single rule, so that they are listed.
The text of a variable is coerced by the kind of its field: a duration is checked and trimmed, a list is split at its
commas, and anything else stays as it is.
-/

namespace AuthProxy

open Text

/-- How the text of a variable is taken. -/
inductive Coercion where
  | text | duration | list
deriving Repr, DecidableEq

/-- The coercion for a kind of values. -/
def Kind.coercion : Kind → Coercion
  | .duration => .duration
  | .texts => .list
  | _ => .text

/-- A variable and the field it sets. -/
structure Binding where
  key : String
  field : Field
deriving Repr, DecidableEq

namespace Binding

/-- How the text of the variable is taken. -/
def coercion (b : Binding) : Coercion :=
  b.field.kind.coercion

/-- The variable of each field, in the order in which they are applied. -/
def table : List Binding :=
  [⟨"SESSION_COOKIE_NAME", .cookieName⟩,
   ⟨"SESSION_COOKIE_SECRET", .cookieSecret⟩,
   ⟨"SESSION_COOKIE_EXPIRE", .cookieExpire⟩,
   ⟨"SESSION_COOKIE_DOMAIN", .cookieDomain⟩,
   ⟨"SESSION_COOKIE_SECURE", .cookieSecure⟩,
   ⟨"SESSION_COOKIE_HTTPONLY", .cookieHttpOnly⟩,
   ⟨"SESSION_TTL_LIFETIME", .ttlLifetime⟩,
   ⟨"SESSION_TTL_VALID", .ttlValid⟩,
   ⟨"SESSION_TTL_GRACEPERIOD", .ttlGracePeriod⟩,
   ⟨"REQUESTSIGNER_KEY", .requestSignerKey⟩,
   ⟨"CLIENT_ID", .clientId⟩,
   ⟨"CLIENT_SECRET", .clientSecret⟩,
   ⟨"SERVER_PORT", .serverPort⟩,
   ⟨"SERVER_TIMEOUT_SHUTDOWN", .serverTimeoutShutdown⟩,
   ⟨"SERVER_TIMEOUT_READ", .serverTimeoutRead⟩,
   ⟨"SERVER_TIMEOUT_WRITE", .serverTimeoutWrite⟩,
   ⟨"METRICS_STATSD_HOST", .statsdHost⟩,
   ⟨"METRICS_STATSD_PORT", .statsdPort⟩,
   ⟨"LOGGING_ENABLE", .loggingEnable⟩,
   ⟨"LOGGING_LEVEL", .loggingLevel⟩,
   ⟨"UPSTREAM_DEFAULT_EMAIL_DOMAINS", .emailDomains⟩,
   ⟨"UPSTREAM_DEFAULT_EMAIL_ADDRESSES", .emailAddresses⟩,
   ⟨"UPSTREAM_DEFAULT_EMAIL_GROUPS", .upstreamGroups⟩,
   ⟨"UPSTREAM_DEFAULT_TIMEOUT", .upstreamTimeout⟩,
   ⟨"UPSTREAM_DEFAULT_TCP_RESET_DEADLINE", .upstreamResetDeadline⟩,
   ⟨"UPSTREAM_DEFAULT_PROVIDER_SLUG", .upstreamProviderSlug⟩,
   ⟨"UPSTREAM_CONFIGS_FILE", .upstreamConfigsFile⟩,
   ⟨"UPSTREAM_SCHEME", .upstreamScheme⟩,
   ⟨"UPSTREAM_CLUSTER", .upstreamCluster⟩,
   ⟨"PROVIDER_TYPE", .providerType⟩,
   ⟨"PROVIDER_URL_EXTERNAL", .providerUrlExternal⟩,
   ⟨"PROVIDER_URL_INTERNAL", .providerUrlInternal⟩,
   ⟨"PROVIDER_SLUG", .providerSlug⟩,
   ⟨"PROVIDER_SCOPE", .providerScope⟩,
   ⟨"PROVIDER_SKIP_AUTH_PREFLIGHT", .providerSkipAuthPreflight⟩]

/-- The binding of a variable, if it is bound. -/
def find? (key : String) : Option Binding :=
  table.find? (·.key == key)

theorem find?_of_mem {b : Binding} (h : b ∈ table) : find? b.key = some b := by
  revert b
  decide

/-- Every field is set by a variable. -/
theorem exists_mem_table (f : Field) : ∃ b ∈ table, b.field = f := by
  revert f
  have : ∀ f ∈ Field.all, ∃ b ∈ table, b.field = f := by decide
  exact fun f => this f f.mem_all

end Binding

/-- A coerced value. -/
inductive CoercedValue where
  | text (s : String)
  | list (items : List String)
deriving Repr, DecidableEq

/-- The items of a list: trimmed, and without those that are blank. -/
def listItems (raw : String) : List String :=
  (((splitAt ',' raw.toList).map trim).filter (· ≠ [])).map String.ofList

/-- The text of a variable coerced; faults name the variable. -/
def Coercion.apply (c : Coercion) (key raw : String) : Outcome Fault CoercedValue :=
  match c with
  | .text => .ok (.text raw)
  | .duration => do
    let _ ← (Duration.read raw).mapFault (.unreadableVariable key)
    .ok (.text (String.ofList (trim raw.toList)))
  | .list => .ok (.list (listItems raw))

end AuthProxy
