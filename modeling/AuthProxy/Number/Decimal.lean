import AuthProxy.Number.Power

/-!
# Decimal numerals

Natural numbers written in decimal, with no sign and no leading zeros, and read back. `readDecimal?_decimal`
is the round trip.
-/

namespace AuthProxy.Number

/-- The decimal digits of a number. -/
def decimal (n : Nat) : List Char :=
  Nat.toDigits 10 n

/-- The number that a non-empty run of ASCII digits writes; leading zeros are allowed. -/
def readDecimal? (s : List Char) : Option Nat :=
  if s ≠ [] ∧ s.all Char.isDigit then some (Nat.ofDigitChars 10 s 0) else none

/-- A decimal numeral below `bound`, with an optional plus sign in front. -/
def readBounded? (bound : Nat) (s : List Char) : Option Nat :=
  let digits := match s with
    | '+' :: r => r
    | s => s
  (readDecimal? digits).filter (· < bound)

/-- The decimal text of an integer, with a minus sign for a negative one. -/
def signedDecimal (i : Int) : List Char :=
  if i < 0 then '-' :: decimal i.natAbs else decimal i.natAbs

theorem decimal_ne_nil (n : Nat) : decimal n ≠ [] :=
  Nat.toDigits_ne_nil

theorem isDigit_of_mem_decimal {n : Nat} {c : Char} (h : c ∈ decimal n) : c.isDigit = true :=
  Nat.isDigit_of_mem_toDigits (by decide) (by decide) h

theorem readDecimal?_decimal (n : Nat) : readDecimal? (decimal n) = some n := by
  have hall : (decimal n).all Char.isDigit = true :=
    List.all_eq_true.2 fun c hc => isDigit_of_mem_decimal hc
  rw [readDecimal?, if_pos ⟨decimal_ne_nil n, hall⟩]
  exact congrArg some (Nat.ofDigitChars_toDigits (by decide) (by decide))

/-- A number is read back from its digits, unless it is beyond the bound. -/
theorem readBounded?_decimal (bound n : Nat) :
    readBounded? bound (decimal n) = if n < bound then some n else none := by
  have hplus : ∀ r, decimal n ≠ '+' :: r := by
    intro r he
    have := isDigit_of_mem_decimal (n := n) (c := '+') (by rw [he]; simp)
    exact absurd this (by decide)
  unfold readBounded?
  split
  · exact absurd ‹_› (hplus _)
  · dsimp only
    rw [readDecimal?_decimal, Option.filter_some]
    simp only [decide_eq_true_eq]

end AuthProxy.Number
