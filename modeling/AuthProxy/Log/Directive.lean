import AuthProxy.Log.Level
import AuthProxy.Log.Pattern
import AuthProxy.Number.Binary64
import AuthProxy.Outcome
import AuthProxy.Text.Alphanumeric
import AuthProxy.Text.Blank
import AuthProxy.Text.Split
import AuthProxy.Text.Utf8

/-!
# Directives of a log filter

A directive gives a level to what it selects: events by their target, by the name of a span around them, and by a field.
It is written `target[span{field=value}]=level`, and any of its parts may be left out. The positions at which the text is
cut are counted in bytes from the first character that is not blank, but the pieces are cut from the whole text, so that
blanks in front move every piece. A cut within a character crashes.
-/

namespace AuthProxy.Log

open Number Text

/-- The value that a field must have. -/
inductive FieldValue where
  | flag (b : Bool)
  | float (x : Binary64)
  | signed (i : Int)
  | unsigned (n : Nat)
  | pattern (p : List Char)
deriving Repr, DecidableEq

/-- A field that must be there, perhaps with a value. -/
structure FieldMatch where
  name : List Char
  value : Option FieldValue
deriving Repr, DecidableEq

/-- A level for what is selected. -/
structure Directive where
  target : Option (List Char) := none
  span : Option (List Char) := none
  field : Option FieldMatch := none
  level : Level := .trace
deriving Repr, DecidableEq

/-- A text that is no directive. -/
inductive Malformed where
  | directive
deriving Repr, DecidableEq

/-! ## Values -/

namespace FieldValue

/-- The float that a text writes, with an optional sign: a numeral with digits before or behind its point and perhaps an
    exponent, or the name of a value that is no number. -/
def readFloat? (s : List Char) : Option Binary64 := do
  let (negative, s) := match s with
    | '-' :: r => (true, r)
    | '+' :: r => (false, r)
    | s => (false, s)
  let lower := s.map Char.toLower
  if lower = "inf".toList ∨ lower = "infinity".toList then return .infinite negative
  if lower = "nan".toList then return .nan
  let whole := s.takeWhile Char.isDigit
  let rest := s.dropWhile Char.isDigit
  let (fraction, rest) := match rest with
    | '.' :: r => (r.takeWhile Char.isDigit, r.dropWhile Char.isDigit)
    | r => ([], r)
  let n ← readDecimal? (whole ++ fraction)
  let exponent : Int ← match rest with
    | [] => some 0
    | e :: r =>
      if e.toLower ≠ 'e' then none
      else
        match r with
        | '-' :: ds => (readDecimal? ds).map fun k => -(k : Int)
        | '+' :: ds => (readDecimal? ds).map fun k => (k : Int)
        | ds => (readDecimal? ds).map fun k => (k : Int)
  return .ofDecimal negative n (exponent - fraction.length)

/-- The negative or positive integer of 64 bits that a text writes. -/
def readSigned? (s : List Char) : Option Int :=
  match s with
  | '-' :: r => (readBounded? (2 ^ 63 + 1) (if r.head? = some '+' then [] else r)).map fun n => -(n : Int)
  | s => (readBounded? (2 ^ 63) s).map fun n => (n : Int)

/-- The value that a text writes: a flag or a number if it is one, and else a pattern. -/
def read? (s : List Char) : Option FieldValue :=
  if s = "true".toList then some (flag true)
  else if s = "false".toList then some (flag false)
  else
    match readBounded? (2 ^ 64) s, readSigned? s, readFloat? s with
    | some n, _, _ => some (unsigned n)
    | none, some i, _ => some (signed i)
    | none, none, some x => some (float x)
    | none, none, none => if Pattern.isPattern s then some (pattern s) else none

/-- The text of a value. -/
def text : FieldValue → List Char
  | flag b => if b then "true".toList else "false".toList
  | float x => x.text
  | signed i => signedDecimal i
  | unsigned n => decimal n
  | pattern p => p

/-- The place of a kind of values in the order of all values. -/
def rank : FieldValue → Nat
  | flag _ => 0
  | float x => if x = .nan then 2 else 1
  | signed _ => 3
  | unsigned _ => 4
  | pattern _ => 5

/-- Values in order: by kind, and then by what they are. -/
def order (a b : FieldValue) : Ordering :=
  match a, b with
  | flag a, flag b => compare a b
  | float a, float b =>
    if a = .nan ∨ b = .nan then compare (float a).rank (float b).rank else a.order b
  | signed a, signed b => compare a b
  | unsigned a, unsigned b => compare a b
  | pattern a, pattern b => compare a b
  | a, b => compare a.rank b.rank

end FieldValue

namespace FieldMatch

/-- The field that a text asks for: a name, and a value behind an equals sign, up to the next one. -/
def read? (s : List Char) : Option FieldMatch :=
  match splitAt '=' s with
  | name :: value :: _ => (FieldValue.read? value).map fun v => ⟨name, some v⟩
  | [name] => some ⟨name, none⟩
  | [] => none

def text (m : FieldMatch) : List Char :=
  match m.value with
  | none => m.name
  | some v => m.name ++ '=' :: v.text

/-- Fields in order: those without a value first, then by name and value. -/
def order (a b : FieldMatch) : Ordering :=
  (compare a.value.isSome b.value.isSome).then <| (compare a.name b.name).then <|
    match a.value, b.value with
    | some v, some w => v.order w
    | _, _ => .eq

end FieldMatch

/-! ## Reading -/

/-- The text behind a number of bytes; a cut within a character crashes. -/
def dropBytes : Nat → List Char → Outcome Malformed (List Char)
  | 0, s => .ok s
  | _, [] => .error .crash
  | n, c :: r => if c.utf8Size ≤ n then dropBytes (n - c.utf8Size) r else .error .crash

/-- The text up to a number of bytes. -/
def takeBytes : Nat → List Char → Outcome Malformed (List Char)
  | 0, _ => .ok []
  | _, [] => .error .crash
  | n, c :: r => if c.utf8Size ≤ n then (c :: ·) <$> takeBytes (n - c.utf8Size) r else .error .crash

/-- The text between two positions. -/
def slice (s : List Char) (start stop : Nat) : Outcome Malformed (List Char) := do
  takeBytes (stop - start) (← dropBytes start s)

namespace Directive

/-- What is being read; where a part has begun, with its position. -/
inductive Phase where
  | start
  /-- A level, or a target. -/
  | levelOrTarget (start : Nat)
  | span (start : Nat)
  | field (start : Nat)
  /-- The field is read, and the bracket must be closed. -/
  | fieldEnd
  /-- Everything in front of the level is read. -/
  | selected
  | level (start : Nat)
deriving Repr, DecidableEq

/-- A character that a directive may begin with, other than a bracket. -/
def isFirst (c : Char) : Bool :=
  isAlphanumeric c || c == '-' || c == ':' || c == '_'

/-- Whatever there is, or the fault of a text that is no directive. -/
def need : Option α → Outcome Malformed α
  | some x => .ok x
  | none => report .directive

/-- The phase behind a character at a position, and the directive with what was completed there. -/
def advance (text : List Char) (d : Directive) (position : Nat) (c : Char) :
    Phase → Outcome Malformed (Phase × Directive)
  | .start =>
    if c = '[' then .ok (.span (position + 1), d)
    else if isFirst c then .ok (.levelOrTarget position, d)
    else report .directive
  | .levelOrTarget start =>
    if c = '=' then do
      let target ← slice text start position
      .ok (.level (position + 1), { d with target })
    else if c = '[' then do
      let target ← slice text start position
      .ok (.span (position + 1), { d with target })
    else .ok (.levelOrTarget start, d)
  | .span start =>
    if c = ']' then do
      let span ← slice text start position
      .ok (.selected, { d with span })
    else if c = '\x7b' then do
      let name ← slice text start position
      .ok (.field (position + 1), { d with span := if name.isEmpty then none else some name })
    else .ok (.span start, d)
  | .field start =>
    if c = '\x7d' then do
      let asked ← slice text start position
      if asked.isEmpty then report .directive
      else
        let field ← need (FieldMatch.read? asked)
        .ok (.fieldEnd, { d with field })
    else .ok (.field start, d)
  | .fieldEnd => if c = ']' then .ok (.selected, d) else report .directive
  | .selected => if c = '=' then .ok (.level (position + 1), d) else report .directive
  | .level start => .ok (.level start, d)

/-- The directive at the end of its text. A text with one part only is a level, or else a target with all levels. -/
def finish (text : List Char) (d : Directive) : Phase → Outcome Malformed Directive
  | .levelOrTarget start => do
    let part ← dropBytes start text
    match Level.read? part with
    | some level => .ok { d with level }
    | none => .ok { d with target := some part, level := .trace }
  | .level start => do
    let part ← dropBytes start text
    if part.isEmpty then .ok { d with level := .trace }
    else
      let level ← need (Level.read? part)
      .ok { d with level }
  | .selected => .ok d
  | _ => report .directive

/-- The directive that the rest of a text completes. -/
def readFrom (text : List Char) (position : Nat) (phase : Phase) (d : Directive) :
    List Char → Outcome Malformed Directive
  | [] => finish text d phase
  | c :: r => do
    let (phase, d) ← advance text d position c phase
    readFrom text (position + c.utf8Size) phase d r

/-- The directive that a text writes. -/
def read (text : List Char) : Outcome Malformed Directive :=
  readFrom text 0 .start {} (trim text)

/-! ## Parts and order -/

/-- Whether a directive selects by a span or a field, which is decided anew for every span. -/
def isDynamic (d : Directive) : Bool :=
  d.span.isSome || d.field.isSome

/-- Whether a directive selects by nothing but the target and the fields' names of an event. -/
def isStatic (d : Directive) : Bool :=
  d.span.isNone && (d.field.bind (·.value)).isNone

/-- What a directive selects, in brackets; the name of a span may be empty. -/
def selectorText (d : Directive) : List Char :=
  match d.span, d.field with
  | none, none => []
  | span, field =>
    let asked := match field with
      | some m => '\x7b' :: m.text ++ ['\x7d']
      | none => []
    '[' :: span.getD [] ++ asked ++ [']']

/-- The text of a directive. -/
def text (d : Directive) : List Char :=
  let selection := d.target.getD [] ++ d.selectorText
  if d.target.isNone ∧ d.selectorText.isEmpty then d.level.name else selection ++ '=' :: d.level.name

/-- Options in order, with nothing first. -/
def optionOrder (order : α → α → Ordering) : Option α → Option α → Ordering
  | none, none => .eq
  | none, some _ => .lt
  | some _, none => .gt
  | some a, some b => order a b

/-- Directives in order, the more specific one being greater: one with a longer target, then one with a span, then one with
    a field. Of two that are as specific the texts decide. -/
def order (a b : Directive) : Ordering :=
  (optionOrder compare (a.target.map utf8Length) (b.target.map utf8Length)).then <|
  (compare a.span.isSome b.span.isSome).then <|
  (compare a.field.isSome b.field.isSome).then <|
  (optionOrder compare a.target b.target).then <|
  (optionOrder compare a.span b.span).then <|
  optionOrder FieldMatch.order a.field b.field

/-- The directives with one more, the most specific first. It takes the place of one that selects the same. -/
def insert (d : Directive) : List Directive → List Directive
  | [] => [d]
  | e :: r =>
    match d.order e with
    | .gt => d :: e :: r
    | .eq => d :: r
    | .lt => e :: insert d r

end Directive

end AuthProxy.Log
