import AuthProxy.Binding.Basic

/-!
# Overrides

The overrides that a list of variables asks for: one for every bound variable that occurs, with its last value, in the
order of the table. They depend on what the variables are set to and not on the order they come in.
-/

namespace AuthProxy

/-- A coerced value for the field of a binding. -/
structure Override where
  binding : Binding
  value : CoercedValue
deriving Repr, DecidableEq

/-- The last value of a variable. -/
def lastValue? (pairs : List (String × String)) (key : String) : Option String :=
  (pairs.reverse.find? (·.1 == key)).map (·.2)

/-- The overrides for some bindings, up to the first value that cannot be coerced. -/
def overridesOf (pairs : List (String × String)) : List Binding → Outcome Fault (List Override)
  | [] => .ok []
  | b :: r =>
    match lastValue? pairs b.key with
    | none => overridesOf pairs r
    | some raw => do
      let v ← b.coercion.apply b.key raw
      let rest ← overridesOf pairs r
      .ok (⟨b, v⟩ :: rest)

/-- The overrides that variables ask for. -/
def collectOverrides (pairs : List (String × String)) : Outcome Fault (List Override) :=
  overridesOf pairs Binding.table

end AuthProxy
