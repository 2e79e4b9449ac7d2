import AuthProxy.Configuration.Field
import AuthProxy.Outcome

/-!
# Gathering a configuration from its fields

However a configuration is written, it is read field by field, and the first field that cannot be read stops the reading. Which one
is the first depends on the order in which tables are gone through (`Field.Order`). Defaults are declared twice. A section that is
absent is the default one, whose fields keep their values there; a field that is absent from a section that is there has a default of
its own.
-/

namespace AuthProxy

/-- The value of a kind where nothing is said of it. -/
def Kind.blank : (k : Kind) → k.Value
  | text => ""
  | flag => false
  | port => (0 : UInt16)
  | duration => Duration.zero
  | texts => []
  | path => none

/-- The default of a field in a section that is there without it. -/
def Field.ownDefault : (f : Field) → f.Value
  | serverPort => Defaults.port
  | serverTimeoutWrite | serverTimeoutRead | serverTimeoutShutdown => Defaults.serverTimeout
  | providerType => Defaults.providerType
  | providerSlug => Defaults.providerSlug
  | cookieName => Defaults.cookieName
  | cookieExpire => Defaults.cookieExpire
  | cookieSecure | cookieHttpOnly | loggingEnable => true
  | ttlLifetime => Defaults.ttlLifetime
  | ttlValid => Defaults.ttlValid
  | ttlGracePeriod => Defaults.ttlGracePeriod
  | upstreamTimeout => Defaults.upstreamTimeout
  | upstreamResetDeadline => Defaults.upstreamResetDeadline
  | upstreamScheme => Defaults.upstreamScheme
  | statsdHost => Defaults.statsdHost
  | statsdPort => Defaults.statsdPort
  | loggingLevel => Defaults.logLevel
  | f => f.kind.blank

/-- An order to read the fields in: all of them, each once. -/
structure Field.Order where
  fields : List Field
  perm : fields.Perm Field.all

/-- The order in which the fields are declared. -/
def Field.Order.declared : Field.Order :=
  ⟨Field.all, .refl _⟩

/-- The order in which one field comes first, and the others as they are declared. -/
def Field.Order.front (f : Field) : Field.Order :=
  ⟨f :: Field.all.erase f, (List.perm_cons_erase f.mem_all).symm⟩

/-- Every field comes once in an order. -/
theorem Field.Order.nodup (order : Field.Order) : order.fields.Nodup :=
  order.perm.nodup_iff.2 Field.all_nodup

theorem Field.Order.mem (order : Field.Order) (f : Field) : f ∈ order.fields :=
  order.perm.mem_iff.2 f.mem_all

namespace Configuration

/-- A reading with the defaults of single fields: those of the sections that are there. -/
def completed (hasSection : Section → Bool) (read : (f : Field) → Except ε (Option f.Value)) (f : Field) :
    Except ε (Option f.Value) := do
  match ← read f with
  | some v => .ok (some v)
  | none => .ok (if hasSection f.owner then some f.ownDefault else none)

/-- The configuration with the fields that `read` finds set to what it finds, one after another. -/
def gatherFrom (read : (f : Field) → Except ε (Option f.Value)) (c : Configuration) :
    List Field → Except ε Configuration
  | [] => .ok c
  | f :: r => do
    match ← read f with
    | some v => gatherFrom read (Field.set c f v) r
    | none => gatherFrom read c r

/-- The default configuration with the fields that `read` finds, in some order, set to what it finds. -/
def gather (order : Field.Order) (read : (f : Field) → Except ε (Option f.Value)) : Except ε Configuration :=
  gatherFrom read default order.fields

end Configuration

end AuthProxy
