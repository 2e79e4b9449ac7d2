import AuthProxy.Duration.Unit
import AuthProxy.Number.Decimal
import AuthProxy.Text.Blank
import AuthProxy.Text.Quoted

/-!
# Reading durations

A duration is written as spans such as `1h 30m`: a number, perhaps with a fraction, and a unit. The reader is a
machine that takes one character at a time, so that it recurs on the text itself; `Phase` is where it stands within
a span. A lone `0` is the one number that needs no unit.
-/

namespace AuthProxy.Duration

open Number Text

/-- The digits behind a point: `numerator / denominator`, the denominator a power of ten. -/
structure Fraction where
  numerator : Nat
  denominator : Nat
deriving Repr, DecidableEq

/-- Where the reader stands. -/
inductive Phase where
  /-- Before a span; `started` says that one has been read. -/
  | gap (started : Bool)
  /-- Behind a digit of the whole part. -/
  | whole (count : Nat)
  /-- Behind the point or a digit after it; `mark` is the offset that a bad character is reported at. -/
  | fraction (count : Nat) (part : Fraction) (mark : Nat)
  /-- Within the unit, whose letters are kept in reverse. -/
  | unit (count : Nat) (part : Option Fraction) (letters : List Char)

/-- A letter that a unit may be written with. -/
def isUnitLetter (c : Char) : Bool :=
  c.isAlpha || c == 'µ'

/-- A number that fits 64 bits. -/
def bounded (n : Nat) : Outcome Malformed Nat :=
  if n < 2 ^ 64 then .ok n else report .outOfRange

/-- The duration lengthened by `count` times a size. -/
def addTimes (d : Duration) (count : Nat) : Size → Outcome Malformed Duration
  | .nanos n => do d.add 0 (← bounded (count * n))
  | .seconds n => do d.add (← bounded (count * n)) 0

/-- The duration lengthened by a fraction of a size, which must come out even. -/
def addFraction (d : Duration) (part : Fraction) (size : Size) : Outcome Malformed Duration :=
  let divided (n : Nat) : Outcome Malformed Nat := do
    let product ← bounded (part.numerator * n)
    if product % part.denominator = 0 then .ok (product / part.denominator) else report .outOfRange
  match size with
  | .nanos n => do d.add 0 (← divided n)
  | .seconds n => do d.add (← divided n) 0

/-- The duration lengthened by one span. -/
def addSpan (d : Duration) (count : Nat) (part : Option Fraction) (unit : TimeUnit) :
    Outcome Malformed Duration := do
  let d ← addTimes d count unit.size
  match part with
  | none => .ok d
  | some part =>
    match unit.fractionSize? with
    | none => report .outOfRange
    | some size => addFraction d part size

/-- The duration lengthened by a span whose unit has been read to its end. -/
def closeSpan (d : Duration) (count : Nat) (part : Option Fraction) (letters : List Char) :
    Outcome Malformed Duration :=
  match TimeUnit.named? letters.reverse with
  | some unit => addSpan d count part unit
  | none => report (if letters.isEmpty then .unitMissing count else .unknownUnit letters.reverse)

/-- The duration read from `s`, which starts at byte `offset` and follows the spans that make up `d`. -/
def readFrom (phase : Phase) (offset : Nat) (d : Duration) : List Char → Outcome Malformed Duration
  | [] =>
    match phase with
    | .gap started => if started then .ok d else report .empty
    | .whole count => closeSpan d count none []
    | .fraction count part mark =>
      if part.denominator = 1 then report (.invalidCharacter mark) else closeSpan d count (some part) []
    | .unit count part letters => closeSpan d count part letters
  | c :: r =>
    let next := offset + c.utf8Size
    let digit := c.toNat - '0'.toNat
    match phase with
    | .gap started =>
      if isBlank c then readFrom (.gap started) next d r
      else if c.isDigit then readFrom (.whole digit) next d r
      else report (.numberExpected offset)
    | .whole count =>
      if c.isDigit then do
        let count ← bounded (count * 10 + digit)
        readFrom (.whole count) next d r
      else if isBlank c then readFrom (.whole count) next d r
      else if isUnitLetter c then readFrom (.unit count none [c]) next d r
      else if c = '.' then readFrom (.fraction count ⟨0, 1⟩ offset) next d r
      else report (.invalidCharacter offset)
    | .fraction count part mark =>
      if c.isDigit then do
        let numerator ← bounded (part.numerator * 10 + digit)
        let denominator ← bounded (part.denominator * 10)
        readFrom (.fraction count ⟨numerator, denominator⟩ next) next d r
      else if isBlank c then readFrom (.fraction count part next) next d r
      else if isUnitLetter c ∧ part.denominator ≠ 1 then readFrom (.unit count (some part) [c]) next d r
      else report (.invalidCharacter mark)
    | .unit count part letters =>
      if isUnitLetter c then readFrom (.unit count part (c :: letters)) next d r
      else if isBlank c then do
        let d ← closeSpan d count part letters
        readFrom (.gap true) next d r
      else if c.isDigit then do
        let d ← closeSpan d count part letters
        readFrom (.whole digit) next d r
      else report (.invalidCharacter offset)

/-- The duration that a text without surrounding blanks writes. -/
def ofText (s : List Char) : Outcome Malformed Duration :=
  if s = ['0'] then .ok zero else readFrom (.gap false) 0 zero s

/-- What is wrong with a text, in words. -/
def Malformed.message : Malformed → List Char
  | empty => "value was empty".toList
  | numberExpected offset => "expected number at ".toList ++ decimal offset
  | invalidCharacter offset => "invalid character at ".toList ++ decimal offset
  | unitMissing n =>
    "time unit needed, for example ".toList ++ decimal n ++ "sec or ".toList ++ decimal n ++ "ms".toList
  | unknownUnit name =>
    "unknown time unit ".toList ++ quote name ++
      (", supported units: ns, us/µs, ms, sec, min, hours, days, weeks, months, years (and few variations)").toList
  | outOfRange =>
    ("number is too large or cannot be represented without a lack of precision " ++
      "(values below 1ns are not supported)").toList

/-- The message on a text that is not a duration; the text is shown as it was given. -/
def faultMessage (raw : List Char) (e : Malformed) : List Char :=
  "invalid duration '".toList ++ raw ++ "': ".toList ++ e.message ++ " (expected e.g. 60s, 3h)".toList

/-- The duration that a text writes; blanks around it are ignored. The fault is a message for the user. -/
def read (raw : String) : Outcome String Duration :=
  (ofText (trim raw.toList)).mapFault fun e => String.ofList (faultMessage raw.toList e)

end AuthProxy.Duration
