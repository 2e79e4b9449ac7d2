import AuthProxy.Configuration.Gathering
import AuthProxy.Duration.Reader
import AuthProxy.Toml.Document

/-!
# Reading a configuration from a TOML document

The strict reading: every value must have the type of its field, and nothing is converted. A section may be written as
an array of its entries, and keys that are not known are ignored.
-/

namespace AuthProxy.Toml

/-- Why a text is not a configuration in TOML. -/
inductive Unfit where
  | malformed
  | notSection (title : String)
  | wrongType (f : Field)
deriving Repr, DecidableEq

/-- The value one step further, if it is there. A date or time has entries of its own, none of which is known. -/
def Value.step (v : Value) (s : Step) : Outcome Unfit (Option Value) :=
  match v with
  | .table entries => .ok (entries.lookup s.key)
  | .list items => .ok items[s.position]?
  | .dateTime _ => .ok none
  | _ => report (.notSection s.title)

/-- The value at the end of a route, if it is there. -/
def Value.follow (v : Value) : List Step → Outcome Unfit (Option Value)
  | [] => .ok (some v)
  | s :: r => do
    match ← v.step s with
    | some w => w.follow r
    | none => .ok none

def Value.text? : Value → Option String
  | .text s => some s
  | _ => none

/-- The value as one of a kind; a text that is no duration is as unfit as a value of another type. -/
def Value.ofKind (v : Value) (unfit : Unfit) : (k : Kind) → Outcome Unfit k.Value
  | .text => match v with | .text s => .ok s | _ => report unfit
  | .flag => match v with | .flag b => .ok b | _ => report unfit
  | .port =>
    match v with
    | .integer i => if 0 ≤ i ∧ i < 2 ^ 16 then .ok (UInt16.ofNat i.toNat) else report unfit
    | _ => report unfit
  | .duration =>
    match v with
    | .text s => (Duration.read s).mapFault fun _ => unfit
    | _ => report unfit
  | .texts =>
    match v with
    | .list items =>
      match items.mapM Value.text? with
      | some xs => .ok xs
      | none => report unfit
    | _ => report unfit
  | .path => match v with | .text s => .ok (some s) | _ => report unfit

/-- The value of a field in a document, if it is there. -/
def readField (t : Table) (f : Field) : Outcome Unfit (Option f.Value) := do
  match ← (Value.table t).follow f.route with
  | some v => some <$> v.ofKind (.wrongType f) f.kind
  | none => .ok none

/-- Whether a section is there. -/
def hasSection (t : Table) (s : Section) : Bool :=
  match (Value.table t).follow s.route with
  | .ok (some _) => true
  | _ => false

/-- The configuration that a TOML document writes, read in some order. -/
def readConfiguration (s : List Char) (order : Field.Order := .declared) : Outcome Unfit Configuration :=
  match parse? s with
  | some t => Configuration.gather order (Configuration.completed (hasSection t) (readField t))
  | none => report .malformed

end AuthProxy.Toml
