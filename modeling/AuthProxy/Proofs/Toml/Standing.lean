import AuthProxy.Toml.Statement

/-!
# What stands at a path of a document

Where a document writes a table twice over, more than one value stands at a path; `Value.All` speaks of all of them, so that it
does not matter which of them a reader takes, and `Value.Sole` says that they are one value. `Value.at?` takes the first one, which
is the only one where keys are distinct. `Sectioned` documents have plain keys at the top and tables for sections.
-/

namespace AuthProxy.Toml

/-- A key that needs no quotes. -/
def IsBare (key : String) : Prop :=
  key ≠ "" ∧ ∀ c ∈ key.toList, isBareKeyChar c = true

instance (key : String) : Decidable (IsBare key) :=
  have : Decidable (∀ c ∈ key.toList, isBareKeyChar c = true) := decidable_of_decidable_of_iff List.all_eq_true
  inferInstanceAs (Decidable (_ ∧ _))

namespace Value

/-- The entries of a table; no other value has any. -/
def entries : Value → Table
  | table es => es
  | _ => []

def IsTable : Value → Prop
  | table _ => True
  | _ => False

instance : (v : Value) → Decidable v.IsTable
  | table _ => .isTrue trivial
  | flag _ => .isFalse id
  | integer _ => .isFalse id
  | float _ => .isFalse id
  | text _ => .isFalse id
  | dateTime _ => .isFalse id
  | list _ => .isFalse id

theorem entries_of_not_isTable {v : Value} (h : ¬ v.IsTable) : v.entries = [] := by
  cases v with
  | table es => exact absurd trivial h
  | _ => rfl

/-- The value that keys lead to: in each table on the way, the first one of its key. -/
def at? : List String → Value → Option Value
  | [], v => some v
  | k :: path, v => (v.entries.lookup k).bind (at? path)

/-- Every value that stands at a path of keys has a property. -/
def All (P : Value → Prop) : List String → Value → Prop
  | [], v => P v
  | k :: path, v => ∀ e ∈ v.entries, e.1 = k → e.2.All P path

instance decidableAll (P : Value → Prop) [DecidablePred P] : (path : List String) → (v : Value) → Decidable (v.All P path)
  | [], v => inferInstanceAs (Decidable (P v))
  | k :: path, v =>
    have : ∀ w, Decidable (All P path w) := decidableAll P path
    inferInstanceAs (Decidable (∀ e ∈ v.entries, e.1 = k → e.2.All P path))

/-- A value is the one that stands at a path of keys, in every table that is written there. -/
def Sole (w : Value) : List String → Value → Prop
  | [], v => v = w
  | k :: path, v => (∃ e ∈ v.entries, e.1 = k) ∧ ∀ e ∈ v.entries, e.1 = k → Sole w path e.2

instance decidableSole (w : Value) [∀ v : Value, Decidable (v = w)] : (path : List String) → (v : Value) →
    Decidable (Sole w path v)
  | [], v => inferInstanceAs (Decidable (v = w))
  | k :: path, v =>
    have : ∀ v, Decidable (Sole w path v) := decidableSole w path
    inferInstanceAs (Decidable ((∃ e ∈ v.entries, e.1 = k) ∧ ∀ e ∈ v.entries, e.1 = k → Sole w path e.2))

instance decidableEqInteger (i : Int) : (v : Value) → Decidable (v = integer i)
  | integer _ => decidable_of_decidable_of_iff ⟨congrArg integer, integer.inj⟩
  | flag _ => .isFalse nofun
  | float _ => .isFalse nofun
  | text _ => .isFalse nofun
  | dateTime _ => .isFalse nofun
  | list _ => .isFalse nofun
  | table _ => .isFalse nofun

end Value

end AuthProxy.Toml
