import AuthProxy.Number.Decimal

/-!
# Binary floating-point numbers of 64 bits

A number is a sign, a significand below 2^53 and a power of two, so that every operation is exact arithmetic on
natural numbers: reading a decimal rounds to the nearest number (a tie to the even significand), and the text of a
number has the fewest digits that read back as it, written without an exponent.
-/

namespace AuthProxy.Number

/-- A floating-point number; `finite s m e` is `m * 2 ^ e`, negated when `s` is true. -/
inductive Binary64 where
  | nan
  | infinite (negative : Bool)
  | finite (negative : Bool) (significand : Nat) (exponent : Int)
deriving Repr, DecidableEq

namespace Binary64

/-- The least exponent of a number; zero and the numbers next to it have it. -/
def minExponent : Int := -1074

/-- The greatest exponent of a finite number. -/
def maxExponent : Int := 971

def zero (negative : Bool) : Binary64 :=
  .finite negative 0 minExponent

/-- `base ^ k` for an exponent of either sign, as numerator and denominator. -/
def powerRatio (base : Nat) (k : Int) : Nat × Nat :=
  if 0 ≤ k then (Nat.pow base k.natAbs, 1) else (1, Nat.pow base k.natAbs)

/-- `num / den` rounded to a natural number, a tie to the even one. -/
def roundDiv (num den : Nat) : Nat :=
  let q := num / den
  let r := num % den
  if den < 2 * r ∨ (2 * r = den ∧ q % 2 = 1) then q + 1 else q

/-- The number nearest to `num / den`. -/
def ofRatio (negative : Bool) (num den : Nat) : Binary64 :=
  if num = 0 then zero negative
  else
    let scaled (e : Int) : Nat × Nat :=
      let p := powerRatio 2 e
      (num * p.2, den * p.1)
    let guess : Int := num.log2 - den.log2 - 52
    let (n, d) := scaled guess
    let e := max minExponent (if n / d < 2 ^ 52 then guess - 1 else guess)
    let (n, d) := scaled e
    let m := roundDiv n d
    let (m, e) := if m = 2 ^ 53 then (2 ^ 52, e + 1) else (m, e)
    if maxExponent < e then .infinite negative else .finite negative m e

/-- The number nearest to `n * 10 ^ k`. Magnitudes far out of range are settled by their digit count. -/
def ofDecimal (negative : Bool) (n : Nat) (k : Int) : Binary64 :=
  let magnitude : Int := (decimal n).length + k
  if n = 0 ∨ magnitude < -330 then zero negative
  else if 310 < magnitude then .infinite negative
  else
    let p := powerRatio 10 k
    ofRatio negative (n * p.1) p.2

def isZero : Binary64 → Bool
  | finite _ m _ => m == 0
  | _ => false

/-- How two numbers other than NaN compare; the two zeros are equal. -/
def order (a b : Binary64) : Ordering :=
  match a, b with
  | finite s m e, finite t n f =>
    let low := min e f
    let value (s : Bool) (m : Nat) (e : Int) : Int :=
      let magnitude : Int := (m * Nat.pow 2 (e - low).toNat : Nat)
      if s then -magnitude else magnitude
    compare (value s m e) (value t n f)
  | infinite s, infinite t => compare t s
  | infinite s, _ => if s then .lt else .gt
  | _, infinite t => if t then .gt else .lt
  | _, _ => .eq

def isFinite : Binary64 → Bool
  | finite .. => true
  | _ => false

/-- The power of ten of the first digit of the positive number `num / den`. -/
def leadingPower (num den : Nat) : Int :=
  if den ≤ num then (decimal (num / den)).length - 1
  else -((decimal ((den + num - 1) / num - 1)).length : Int)

/-- The decimal `d * 10 ^ p` with at most `digits` digits that is nearest to `m * 2 ^ e` among those that
    read back as it, if there is one. -/
def decimalOfLength? (m : Nat) (e : Int) (digits : Nat) : Option (Nat × Int) :=
  let unit := powerRatio 2 (e - 2)
  let value := 4 * m * unit.1
  let low := (4 * m - if m = 2 ^ 52 ∧ minExponent < e then 1 else 2) * unit.1
  let high := (4 * m + 2) * unit.1
  let p := leadingPower value unit.2 + 1 - digits
  let grid := powerRatio 10 p
  -- all comparisons are over the common denominator `unit.2 * grid.2`
  let point (d : Nat) : Nat := d * grid.1 * unit.2
  let reads (d : Nat) : Bool :=
    let x := point d
    let l := low * grid.2
    let h := high * grid.2
    if m % 2 = 0 then decide (l ≤ x) && decide (x ≤ h) else decide (l < x) && decide (x < h)
  let below := value * grid.2 / (grid.1 * unit.2)
  let above := below + 1
  let toBelow := value * grid.2 - point below
  let toAbove := point above - value * grid.2
  match reads below, reads above with
  | true, true =>
    some (if toBelow < toAbove ∨ (toBelow = toAbove ∧ below % 2 = 0) then below else above, p)
  | true, false => some (below, p)
  | false, true => some (above, p)
  | false, false => none

/-- The decimal with the fewest digits that reads back as `m * 2 ^ e`; seventeen digits always do. -/
def shortestDecimal (m : Nat) (e : Int) : Nat × Int :=
  ((List.range 17).findSome? fun k => decimalOfLength? m e (k + 1)).getD (0, 0)

/-- `d * 10 ^ p` written out, with a point only where there are places behind it. -/
def positional (d : Nat) (p : Int) : List Char :=
  let digits := decimal d
  let places := p.natAbs
  if 0 ≤ p then digits ++ List.replicate places '0'
  else if places < digits.length then
    digits.take (digits.length - places) ++ '.' :: digits.drop (digits.length - places)
  else '0' :: '.' :: List.replicate (places - digits.length) '0' ++ digits

def signed (negative : Bool) (s : List Char) : List Char :=
  if negative then '-' :: s else s

/-- The text of a number: the fewest digits that read back, with no exponent and no empty places. -/
def text : Binary64 → List Char
  | nan => "NaN".toList
  | infinite s => signed s "inf".toList
  | finite s m e =>
    if m = 0 then signed s ['0']
    else
      let (d, p) := shortestDecimal m e
      signed s (positional d p)

/-- The text of a number in which a whole number is marked as a float by `.0`. -/
def pointedText (x : Binary64) : List Char :=
  if x.isFinite && !x.text.contains '.' then x.text ++ ['.', '0'] else x.text

/-- The nearest natural number up to `limit`, a half away from zero; negative numbers and NaN give zero. -/
def toNatSaturating (limit : Nat) : Binary64 → Nat
  | nan => 0
  | infinite s => if s then 0 else limit
  | finite s m e =>
    if s then 0
    else
      let p := powerRatio 2 e
      min limit ((2 * m * p.1 + p.2) / (2 * p.2))

end Binary64

end AuthProxy.Number
