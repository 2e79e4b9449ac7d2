import AuthProxy.Proofs.Duration.Sum
import AuthProxy.Proofs.Text.Character

/-!
# Duration literals

What a text must look like to write spans (`WritesSpan`, `Writes`), with nothing said of how large they are. The
characters of numbers and of units are apart, and a span starts with a digit and ends with a letter (`WritesSpan.solid`).
-/

namespace AuthProxy.Duration

open Number Text

/-- A character of a number: a digit, or a blank, which does not count. -/
def isNumberChar (c : Char) : Bool :=
  c.isDigit || isBlank c

/-- The number that the digits of a text write. -/
def digitsValue (s : List Char) : Nat :=
  Nat.ofDigitChars 10 (s.filter Char.isDigit) 0

/-- The fraction that the digits behind a point write. -/
def digitsFraction (s : List Char) : Fraction :=
  ⟨digitsValue s, 10 ^ (s.filter Char.isDigit).length⟩

/-- A text that writes one span: a number, perhaps a point and a fraction, and the name of a unit. -/
inductive WritesSpan : List Char → Span → Prop where
  | whole {c : Char} {ws name : List Char} {u : TimeUnit} (digit : c.isDigit = true)
      (number : ∀ x ∈ ws, isNumberChar x = true) (named : TimeUnit.named? name = some u) :
      WritesSpan (c :: (ws ++ name)) ⟨digitsValue (c :: ws), none, u⟩
  | divided {c : Char} {ws fs name : List Char} {u : TimeUnit} (digit : c.isDigit = true)
      (number : ∀ x ∈ ws, isNumberChar x = true) (fraction : ∀ x ∈ fs, isNumberChar x = true)
      (some_digit : fs.filter Char.isDigit ≠ []) (named : TimeUnit.named? name = some u) :
      WritesSpan (c :: (ws ++ '.' :: (fs ++ name))) ⟨digitsValue (c :: ws), some (digitsFraction fs), u⟩

/-- A text that can follow a unit: it does not go on with a letter or another sign. -/
def FollowsUnit (r : List Char) : Prop :=
  ∀ c, r.head? = some c → isBlank c = true ∨ c.isDigit = true

/-- A text that writes spans, with blanks around them. -/
inductive Writes : List Char → List Span → Prop where
  | nil {bs : List Char} (blank : ∀ x ∈ bs, isBlank x = true) : Writes bs []
  | cons {bs t r : List Char} {s : Span} {ss : List Span} (blank : ∀ x ∈ bs, isBlank x = true)
      (head : WritesSpan t s) (tail : Writes r ss) : Writes (bs ++ t ++ r) (s :: ss)

theorem Writes.span {t r : List Char} {s : Span} {ss : List Span} (head : WritesSpan t s) (tail : Writes r ss) :
    Writes (t ++ r) (s :: ss) :=
  .cons (List.forall_mem_nil _) head tail

/-- A blank in front of a literal changes nothing. -/
theorem Writes.blank {c : Char} {t : List Char} {ss : List Span} (hc : isBlank c = true) (h : Writes t ss) :
    Writes (c :: t) ss := by
  cases h with
  | nil blank => exact .nil (List.forall_mem_cons.2 ⟨hc, blank⟩)
  | @cons bs t r s ss blank head tail =>
    have hb : ∀ x ∈ c :: bs, isBlank x = true := List.forall_mem_cons.2 ⟨hc, blank⟩
    exact .cons hb head tail

/-- The numbers of a span fit 64 bits. -/
def Span.Fits (s : Span) : Prop :=
  s.count < 2 ^ 64 ∧ ∀ p, s.part = some p → p.numerator < 2 ^ 64 ∧ p.denominator < 2 ^ 64

instance (s : Span) : Decidable s.Fits :=
  match h : s.part with
  | none => decidable_of_iff (s.count < 2 ^ 64) (by simp [Span.Fits, h])
  | some p => decidable_of_iff (s.count < 2 ^ 64 ∧ p.numerator < 2 ^ 64 ∧ p.denominator < 2 ^ 64)
      (by simp [Span.Fits, h])

/-! ## Characters -/

theorem isUnitLetter_iff {c : Char} : isUnitLetter c = true ↔
    (65 ≤ c.toNat ∧ c.toNat ≤ 90) ∨ (97 ≤ c.toNat ∧ c.toNat ≤ 122) ∨ c = 'µ' := by
  rw [isUnitLetter, Bool.or_eq_true, isAlpha_iff, beq_iff_eq, or_assoc]

/-- A character of a number is neither a letter of a unit nor a point. -/
theorem isNumberChar_spec {c : Char} (h : isNumberChar c = true) : isUnitLetter c = false ∧ c ≠ '.' := by
  rw [isNumberChar, Bool.or_eq_true, isDigit_iff] at h
  have hc : (48 ≤ c.toNat ∧ c.toNat ≤ 57) ∨ (9 ≤ c.toNat ∧ c.toNat ≤ 13) ∨ c.toNat = 32 ∨
      (133 ≤ c.toNat ∧ c.toNat ≠ 181) := h.imp_right code_of_isBlank
  constructor
  · apply Bool.eq_false_iff.2
    intro hl
    rcases isUnitLetter_iff.1 hl with hl | hl | rfl
    · omega
    · omega
    · revert hc
      decide
  · rintro rfl
    revert hc
    decide

/-- A letter of a unit is neither a digit nor a blank. -/
theorem isUnitLetter_spec {c : Char} (h : isUnitLetter c = true) : c.isDigit = false ∧ isBlank c = false := by
  rw [← Bool.or_eq_false_iff]
  apply Bool.eq_false_iff.2
  intro hn
  rw [(isNumberChar_spec hn).1] at h
  cases h

/-- The names of units are made of letters, and none is empty. -/
theorem isUnitLetter_of_named {name : List Char} {u : TimeUnit} (h : TimeUnit.named? name = some u) :
    name ≠ [] ∧ ∀ c ∈ name, isUnitLetter c = true := by
  have hall : ∀ u ∈ TimeUnit.all, ∀ s ∈ u.names, s.toList ≠ [] ∧ s.toList.all isUnitLetter = true := by
    decide
  have hu := List.mem_of_find?_eq_some h
  have hs := List.find?_some h
  obtain ⟨s, hs, he⟩ := List.any_eq_true.1 hs
  rw [← eq_of_beq he]
  obtain ⟨hne, hletters⟩ := hall u hu s hs
  exact ⟨hne, List.all_eq_true.1 hletters⟩

/-! ## The ends of a literal -/

theorem WritesSpan.exists_digit {t : List Char} {s : Span} (h : WritesSpan t s) :
    ∃ c r, t = c :: r ∧ c.isDigit = true := by
  cases h with
  | whole digit => exact ⟨_, _, rfl, digit⟩
  | divided digit => exact ⟨_, _, rfl, digit⟩

/-- A text that starts with a digit and ends with a letter of a unit. -/
def Solid (t : List Char) : Prop :=
  (∃ c r, t = c :: r ∧ c.isDigit = true) ∧ ∃ r l, t = r ++ [l] ∧ isUnitLetter l = true

theorem WritesSpan.solid {t : List Char} {s : Span} (h : WritesSpan t s) : Solid t := by
  refine ⟨h.exists_digit, ?_⟩
  have hlast : ∀ {name u} (w : List Char), TimeUnit.named? name = some u →
      ∃ r l, w ++ name = r ++ [l] ∧ isUnitLetter l = true := by
    intro name u w hn
    obtain ⟨hne, hl⟩ := isUnitLetter_of_named hn
    refine ⟨w ++ name.dropLast, name.getLast hne, ?_, hl _ (List.getLast_mem hne)⟩
    rw [List.append_assoc, List.dropLast_concat_getLast]
  cases h with
  | @whole c ws name u digit number named => exact hlast (c :: ws) named
  | @divided c ws fs name u digit number fraction some_digit named =>
    have := hlast (c :: (ws ++ '.' :: fs)) named
    rwa [List.cons_append, List.append_assoc, List.cons_append] at this

theorem Solid.trim {t : List Char} (h : Solid t) : trim t = t := by
  obtain ⟨⟨c, r, hc, hd⟩, ⟨w, l, hl, hu⟩⟩ := h
  refine trim_eq_self_iff.2 ⟨fun x hx => ?_, fun x hx => ?_⟩
  · rw [hc] at hx
    cases hx
    exact not_isBlank_of_isDigit hd
  · rw [hl, List.getLast?_concat] at hx
    cases hx
    exact (isUnitLetter_spec hu).2

theorem Solid.ne_zero {t : List Char} (h : Solid t) : t ≠ ['0'] := by
  rintro rfl
  obtain ⟨w, l, hl, hu⟩ := h.2
  cases w with
  | nil =>
    cases hl
    exact absurd hu (by decide)
  | cons c w => simp at hl

/-- A literal of at least one span holds the letters of a unit. -/
theorem Writes.exists_letter {t : List Char} {ss : List Span} (h : Writes t ss) (hne : ss ≠ []) :
    ∃ l ∈ t, isUnitLetter l = true := by
  cases h with
  | nil blank => exact absurd rfl hne
  | @cons bs t r s ss blank head tail =>
    obtain ⟨w, l, rfl, hl⟩ := head.solid.2
    exact ⟨l, by simp, hl⟩

end AuthProxy.Duration
