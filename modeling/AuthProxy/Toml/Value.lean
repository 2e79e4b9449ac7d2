import AuthProxy.Number.Binary64

/-!
# TOML values

What a TOML document holds. A table is a list of entries in the order of the document; a date or time is kept as its
normal text.
-/

namespace AuthProxy.Toml

/-- A TOML value. -/
inductive Value where
  | flag (b : Bool)
  | integer (i : Int)
  | float (x : Number.Binary64)
  | text (s : String)
  | dateTime (s : String)
  | list (items : List Value)
  | table (entries : List (String × Value))
deriving Repr

/-- The entries of a table. -/
abbrev Table := List (String × Value)

/-- The value of a key. -/
def Table.find? (t : Table) (key : String) : Option Value :=
  List.lookup key t

mutual

/-- Every integer within a value fits 64 bits. -/
def Value.integersFit : Value → Bool
  | .integer i => decide (-2 ^ 63 ≤ i) && decide (i < 2 ^ 63)
  | .list items => integersFitItems items
  | .table entries => integersFitEntries entries
  | _ => true

def integersFitItems : List Value → Bool
  | [] => true
  | v :: r => v.integersFit && integersFitItems r

def integersFitEntries : List (String × Value) → Bool
  | [] => true
  | (_, v) :: r => v.integersFit && integersFitEntries r

end

end AuthProxy.Toml
