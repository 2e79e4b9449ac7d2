import AuthProxy.Number.Decimal

/-!
# TOML dates and times

A date, a time, or both with or without an offset, read from a whole token and put into normal form: `T` between date
and time, `Z` in upper case, no zeros at the end of a fraction, and a zero offset as `+00:00`. Seconds may be absent
and stay absent.
-/

namespace AuthProxy.Toml

open Number

/-- The number that the first `n` characters write, and the rest. -/
def takeNumber? (n : Nat) (s : List Char) : Option (Nat × List Char) :=
  if (s.take n).length = n then (readDecimal? (s.take n)).map (·, s.drop n) else none

/-- The rest of a token behind a given character. -/
def expect? (c : Char) : List Char → Option (List Char)
  | d :: r => if d = c then some r else none
  | [] => none

/-- A number in two digits. -/
def twoDigits (n : Nat) : List Char :=
  [Nat.digitChar (n / 10 % 10), Nat.digitChar (n % 10)]

def daysInMonth (year month : Nat) : Nat :=
  if month = 2 then if year % 4 = 0 ∧ (year % 100 ≠ 0 ∨ year % 400 = 0) then 29 else 28
  else if month = 4 ∨ month = 6 ∨ month = 9 ∨ month = 11 then 30
  else 31

/-- The date that a token starts with, in normal form, and the rest. -/
def date? (s : List Char) : Option (List Char × List Char) := do
  let (year, r) ← takeNumber? 4 s
  let (month, r) ← takeNumber? 2 (← expect? '-' r)
  let (day, r) ← takeNumber? 2 (← expect? '-' r)
  if 1 ≤ month ∧ month ≤ 12 ∧ 1 ≤ day ∧ day ≤ daysInMonth year month then some (s.take 10, r) else none

/-- The fraction of a second in normal form; digits beyond the ninth are dropped. -/
def fractionText (digits : List Char) : List Char :=
  match ((digits.take 9).reverse.dropWhile (· == '0')).reverse with
  | [] => []
  | ds => '.' :: ds

/-- The time that a token starts with, in normal form, and the rest. -/
def time? (s : List Char) : Option (List Char × List Char) := do
  let (hour, r) ← takeNumber? 2 s
  let (minute, r) ← takeNumber? 2 (← expect? ':' r)
  if 24 < hour ∨ 59 < minute then none
  let minutes := twoDigits hour ++ ':' :: twoDigits minute
  match r with
  | ':' :: r =>
    let (second, r) ← takeNumber? 2 r
    if 60 < second then none
    let seconds := minutes ++ ':' :: twoDigits second
    match r with
    | '.' :: r =>
      let digits := r.takeWhile Char.isDigit
      if digits.isEmpty then none else some (seconds ++ fractionText digits, r.dropWhile Char.isDigit)
    | r => some (seconds, r)
  | r => some (minutes, r)

/-- The offset that makes up a token, in normal form; an empty one is allowed. -/
def offset? : List Char → Option (List Char)
  | [] => some []
  | ['Z'] => some ['Z']
  | ['z'] => some ['Z']
  | sign :: r => do
    if sign ≠ '+' ∧ sign ≠ '-' then none
    let (hours, r) ← takeNumber? 2 r
    let (minutes, r) ← takeNumber? 2 (← expect? ':' r)
    let total := hours * 60 + minutes
    if r ≠ [] ∨ 59 < minutes ∨ 24 * 60 < total then none
    some ((if total = 0 then '+' else sign) :: twoDigits hours ++ ':' :: twoDigits minutes)

/-- The date or time that a token writes, in normal form. -/
def dateTime? (s : List Char) : Option (List Char) :=
  match date? s with
  | some (date, []) => some date
  | some (date, mark :: r) => do
    if mark ≠ 'T' ∧ mark ≠ 't' ∧ mark ≠ ' ' then none
    let (time, r) ← time? r
    some (date ++ 'T' :: time ++ (← offset? r))
  | none =>
    match time? s with
    | some (time, []) => some time
    | _ => none

end AuthProxy.Toml
