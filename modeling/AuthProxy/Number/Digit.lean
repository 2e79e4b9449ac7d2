import AuthProxy.Number.Power

/-!
# Digits

The value of a digit in a base up to sixteen, whose digits above nine are letters in either case.
-/

namespace AuthProxy.Number

/-- The value of a digit in a base up to sixteen. -/
def digitIn? (base : Nat) (c : Char) : Option Nat :=
  let d :=
    if c.isDigit then c.toNat - '0'.toNat
    else if c.isAlpha then c.toLower.toNat - 'a'.toNat + 10
    else base
  if d < base then some d else none

/-- The value of a hexadecimal digit. -/
def hexDigit? (c : Char) : Option Nat :=
  digitIn? 16 c

theorem digitIn?_of_isDigit {c : Char} (h : c.isDigit = true) : digitIn? 10 c = some (c.toNat - '0'.toNat) := by
  have hbounds : '0'.toNat ≤ c.toNat ∧ c.toNat ≤ '9'.toNat := by
    simpa [Char.isDigit, UInt32.le_iff_toNat_le] using h
  have hnine : '9'.toNat = '0'.toNat + 9 := rfl
  rw [digitIn?, if_pos h, if_pos (by omega)]

/-- A hexadecimal digit is read back in capitals. -/
theorem hexDigit?_digitChar {d : Nat} (hd : d < 16) : hexDigit? (Nat.digitChar d).toUpper = some d := by
  have hall : ∀ d < 16, hexDigit? (Nat.digitChar d).toUpper = some d := by
    decide
  exact hall d hd

end AuthProxy.Number
