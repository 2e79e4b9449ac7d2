import AuthProxy.Number.Digit
import AuthProxy.Toml.Value

/-!
# TOML numbers

Integers in four bases and floats, read from a whole token. Underscores may stand between digits; a decimal number
has no leading zero. An integer may be anything that 128 bits hold, with or without sign; a float that is too large
is refused.
-/

namespace AuthProxy.Toml

open Number

/-- The digits of a token behind a first digit, without the underscores between them. -/
def moreDigits? (isDigit : Char → Bool) : List Char → Option (List Char)
  | [] => some []
  | '_' :: c :: r => if isDigit c then (moreDigits? isDigit r).map (c :: ·) else none
  | c :: r => if isDigit c then (moreDigits? isDigit r).map (c :: ·) else none

/-- The digits of a token, without the underscores between them; there is at least one. -/
def digits? (isDigit : Char → Bool) : List Char → Option (List Char)
  | [] => none
  | c :: r => if isDigit c then (moreDigits? isDigit r).map (c :: ·) else none

/-- Decimal digits with no leading zero. -/
def wholeDigits? (s : List Char) : Option (List Char) :=
  match digits? Char.isDigit s with
  | some ('0' :: _ :: _) => none
  | other => other

/-- The sign in front of a token: whether it is negative, and the rest. -/
def takeSign : List Char → Bool × List Char
  | '-' :: r => (true, r)
  | '+' :: r => (false, r)
  | s => (false, s)

/-- A digit of a base up to sixteen. -/
def isDigitOf (base : Nat) (c : Char) : Bool :=
  (digitIn? base c).isSome

/-- The number that digits write in a base. -/
def ofDigits (base : Nat) (s : List Char) : Nat :=
  s.foldl (fun n c => n * base + (digitIn? base c).getD 0) 0

/-- The integer that a token writes. -/
def integer? (s : List Char) : Option Int := do
  let i : Int ← match s with
    | '0' :: 'x' :: r => (digits? (isDigitOf 16) r).map fun ds => (ofDigits 16 ds : Int)
    | '0' :: 'o' :: r => (digits? (isDigitOf 8) r).map fun ds => (ofDigits 8 ds : Int)
    | '0' :: 'b' :: r => (digits? (isDigitOf 2) r).map fun ds => (ofDigits 2 ds : Int)
    | s =>
      let (negative, r) := takeSign s
      (wholeDigits? r).map fun ds => if negative then -(ofDigits 10 ds : Int) else ofDigits 10 ds
  if -2 ^ 127 ≤ i ∧ i < 2 ^ 128 then some i else none

/-- The exponent behind `e`. -/
def exponent? (s : List Char) : Option Int :=
  let (negative, r) := takeSign s
  (digits? Char.isDigit r).map fun ds => if negative then -(ofDigits 10 ds : Int) else ofDigits 10 ds

/-- The float that a token writes: a whole part with a fraction, an exponent or both. -/
def float? (s : List Char) : Option Binary64 := do
  let (negative, r) := takeSign s
  if r = "inf".toList then return .infinite negative
  if r = "nan".toList then return .nan
  let isMark (c : Char) : Bool := c == 'e' || c == 'E'
  let mantissa := r.takeWhile (! isMark ·)
  let scale := r.dropWhile (! isMark ·)
  let exponent ← match scale with
    | [] => some 0
    | _ :: e => exponent? e
  let whole ← wholeDigits? (mantissa.takeWhile (· != '.'))
  let fraction ← match mantissa.dropWhile (· != '.') with
    | [] => if scale.isEmpty then none else some []
    | _ :: f => digits? Char.isDigit f
  let x := Binary64.ofDecimal negative (ofDigits 10 (whole ++ fraction)) (exponent - fraction.length)
  if x.isFinite then some x else none

end AuthProxy.Toml
