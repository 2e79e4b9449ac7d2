import AuthProxy.Number.Decimal
import AuthProxy.Proofs.Text.Character
import AuthProxy.Text.LowerCase
import AuthProxy.Text.Split

/-!
# Joined pieces and digits

Pieces that do not hold the separator come back from the text that joins them (`splitAt_intercalate`), and digits have no case
(`lowerCase_decimal`).
-/

namespace AuthProxy.Text

open Number

section Pieces

variable {α : Type} [DecidableEq α] {sep : α}

/-- A text without the separator is one piece. -/
theorem splitAt_of_not_mem {s : List α} (h : sep ∉ s) : splitAt sep s = [s] := by
  induction s with
  | nil => rfl
  | cons c r ih =>
    obtain ⟨hc, hr⟩ : sep ≠ c ∧ sep ∉ r := by simpa using h
    rw [splitAt, if_neg (Ne.symm hc), ih hr]

/-- What stands in front of the first separator is the first piece. -/
theorem splitAt_append {s : List α} (h : sep ∉ s) (r : List α) : splitAt sep (s ++ sep :: r) = s :: splitAt sep r := by
  induction s with
  | nil => rw [List.nil_append, splitAt, if_pos rfl]
  | cons c s ih =>
    obtain ⟨hc, hs⟩ : sep ≠ c ∧ sep ∉ s := by simpa using h
    rw [List.cons_append, splitAt, if_neg (Ne.symm hc), ih hs]

/-- **Joined pieces come back**, if there is one and none of them holds the separator. -/
theorem splitAt_intercalate {pieces : List (List α)} (hne : pieces ≠ []) (h : ∀ p ∈ pieces, sep ∉ p) :
    splitAt sep ([sep].intercalate pieces) = pieces := by
  induction pieces with
  | nil => exact absurd rfl hne
  | cons p ps ih =>
    obtain ⟨hp, hps⟩ := List.forall_mem_cons.1 h
    cases ps with
    | nil =>
      rw [List.intercalate_singleton]
      exact splitAt_of_not_mem hp
    | cons q qs =>
      rw [List.intercalate_cons_cons, List.append_assoc, List.singleton_append, splitAt_append hp]
      rw [ih (by simp) hps]

omit [DecidableEq α] in
/-- What is in a joined text is in a piece or in what joins them. -/
theorem of_mem_intercalate {joint : List α} {pieces : List (List α)} {c : α} (h : c ∈ joint.intercalate pieces) :
    c ∈ joint ∨ ∃ p ∈ pieces, c ∈ p := by
  induction pieces with
  | nil => cases h
  | cons p ps ih =>
    cases ps with
    | nil =>
      rw [List.intercalate_singleton] at h
      exact .inr ⟨p, List.mem_cons_self, h⟩
    | cons q qs =>
      rw [List.intercalate_cons_cons, List.mem_append, List.mem_append] at h
      rcases h with (h | h) | h
      · exact .inr ⟨p, List.mem_cons_self, h⟩
      · exact .inl h
      · exact (ih h).imp_right fun ⟨r, hr, hc⟩ => ⟨r, List.mem_cons_of_mem p hr, hc⟩

omit [DecidableEq α] in
theorem map_intercalate {β : Type} (f : α → β) (joint : List α) (pieces : List (List α)) :
    (joint.intercalate pieces).map f = (joint.map f).intercalate (pieces.map (·.map f)) := by
  induction pieces with
  | nil => rfl
  | cons p ps ih =>
    cases ps with
    | nil => rw [List.intercalate_singleton, List.map_singleton, List.intercalate_singleton]
    | cons q qs =>
      rw [List.intercalate_cons_cons, List.map_append, List.map_append, ih]
      exact List.intercalate_cons_cons.symm

end Pieces

/-! ## Digits -/

/-- A decimal numeral is in lower case. -/
theorem lowerCase_decimal (n : Nat) : lowerCase (decimal n) = decimal n := by
  have hdigit : ∀ c ∈ decimal n, c.isDigit = true := fun c hc => isDigit_of_mem_decimal hc
  have hascii : ∀ c ∈ decimal n, c.toNat < 0x80 := by
    intro c hc
    have := isDigit_iff.1 (hdigit c hc)
    omega
  rw [lowerCase_ascii hascii]
  calc (decimal n).map Char.toLower
      = (decimal n).map id := List.map_congr_left fun c hc => toLower_of_isDigit (hdigit c hc)
    _ = decimal n := List.map_id _

/-- A decimal numeral is no word with another character in it. -/
theorem decimal_ne {n : Nat} {word : List Char} (h : word.all Char.isDigit = false) : decimal n ≠ word := by
  rintro rfl
  have hdigits : (decimal n).all Char.isDigit = true := List.all_eq_true.2 fun c hc => isDigit_of_mem_decimal hc
  rw [hdigits] at h
  cases h

end AuthProxy.Text
