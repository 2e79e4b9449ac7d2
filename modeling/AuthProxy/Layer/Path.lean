import AuthProxy.Layer.Tree
import AuthProxy.Number.Decimal
import AuthProxy.Text.Split

/-!
# Paths written as keys

A key at the top of the file may be a path, such as `server.port` or `upstream.default.groups[0]`: names of letters,
digits, `_` and `-`, each behind a point, and indexes in brackets. A key that is not written like this is a name by
itself.
-/

namespace AuthProxy.Layer

open Number Text

/-- A character of a name in a path. -/
def isNameChar (c : Char) : Bool :=
  c.isAlphanum || c == '_' || c == '-'

/-- The index in brackets: a number that fits 64 bits with its sign, perhaps between spaces and tabs. -/
def index? (s : List Char) : Option Int := do
  let isSpace (c : Char) : Bool := c == ' ' || c == '\t'
  let s := s.dropWhile isSpace
  let (negative, digits) := match s with
    | '-' :: r => (true, r)
    | s => (false, s)
  let n ← readDecimal? (digits.takeWhile Char.isDigit)
  if (digits.dropWhile Char.isDigit).any (! isSpace ·) then none
  if negative then if n ≤ 2 ^ 63 then some (-n) else none
  else if n < 2 ^ 63 then some n else none

/-- The segments of a path behind its first name; the fuel is the length of the text. -/
def segments? : (fuel : Nat) → List Char → Option (List Segment)
  | _, [] => some []
  | 0, _ => none
  | fuel + 1, '.' :: r =>
    let name := r.takeWhile isNameChar
    if name.isEmpty then none
    else (segments? fuel (r.dropWhile isNameChar)).map (.key (String.ofList name) :: ·)
  | fuel + 1, '[' :: r => do
    let i ← index? (r.takeWhile (· != ']'))
    match r.dropWhile (· != ']') with
    | _ :: rest => (segments? fuel rest).map (.index i :: ·)
    | [] => none
  | _, _ => none

/-- The path that a key at the top of the file stands for. -/
def pathOfKey (key : String) : List Segment :=
  let s := key.toList
  (segments? (s.length + 1) ('.' :: s)).getD [.key key]

/-- A list that an index leads into need not be longer than `room`, which is the length of the longest list that memory holds. -/
def Segment.fits (room : Nat) : Segment → Bool
  | .key _ => true
  | .index i => decide (-room ≤ i) && decide (i < room)

end AuthProxy.Layer
