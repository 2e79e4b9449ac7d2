import AuthProxy.Number.Decimal

/-!
# Punycode

Labels of a domain with characters beyond ASCII are written with ASCII alone: the ASCII characters, a hyphen, and digits
in base 36 that say where which other character goes in. This module reads them.
-/

namespace AuthProxy.Url.Idna

/-- The value of a digit. -/
def punycodeDigit? (c : Char) : Option Nat :=
  if c.isLower then some (c.toNat - 'a'.toNat)
  else if c.isUpper then some (c.toNat - 'A'.toNat)
  else if c.isDigit then some (c.toNat - '0'.toNat + 26)
  else none

/-- The digit that ends a number, given how far its places go and the bias. -/
def threshold (place bias : Nat) : Nat :=
  if place ≤ bias then 1 else if bias + 26 ≤ place then 26 else place - bias

/-- The number that digits start with, added to `sum`, and what follows it. -/
def readOffset? (bias : Nat) : (place weight sum : Nat) → List Char → Option (Nat × List Char)
  | _, _, _, [] => none
  | place, weight, sum, c :: r => do
    let d ← punycodeDigit? c
    let sum := sum + d * weight
    let t := threshold place bias
    if 2 ^ 32 ≤ sum then none
    else if d < t then some (sum, r)
    else readOffset? bias (place + 36) (weight * (36 - t)) sum r

/-- The bias that follows from the size of the last number. -/
def adapt (delta count : Nat) (first : Bool) : Nat :=
  let scaled := if first then delta / 700 else delta / 2
  let rec reduce : (fuel place delta : Nat) → Nat
    | 0, place, delta => place + 36 * delta / (delta + 38)
    | fuel + 1, place, delta =>
      if 455 < delta then reduce fuel (place + 36) (delta / 35) else place + 36 * delta / (delta + 38)
  reduce 8 0 (scaled + scaled / count)

/-- The text with the characters that the digits tell of put into it; the fuel is the number of digits. -/
def insertAll? : (fuel : Nat) → (text : List Char) → (code index bias : Nat) → List Char → Option (List Char)
  | _, text, _, _, _, [] => some text
  | 0, _, _, _, _, _ => none
  | fuel + 1, text, code, index, bias, s => do
    let (i, r) ← readOffset? bias 36 1 index s
    let count := text.length + 1
    let code := code + i / count
    let place := i % count
    if ¬ code.isValidChar then none
    insertAll? fuel (text.take place ++ Char.ofNat code :: text.drop place) code (place + 1)
      (adapt (i - index) count (text.all (·.toNat < 0x80))) r

/-- The label that a text behind `xn--` stands for. The ASCII part ends at the last hyphen, unless that comes first. -/
def decodePunycode? (s : List Char) : Option (List Char) :=
  let digits := (s.reverse.takeWhile (· != '-')).reverse
  let basic := s.take (s.length - digits.length)
  if basic.length ≤ 1 then insertAll? s.length [] 128 0 72 s
  else insertAll? digits.length basic.dropLast 128 0 72 digits

end AuthProxy.Url.Idna
