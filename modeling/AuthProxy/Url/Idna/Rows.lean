import AuthProxy.Text.Split
import AuthProxy.Url.Ipv4

/-!
# Tables written as rows

The longer tables are written as rows of hexadecimal numbers: a code point or a run `first-last`, perhaps with a step
behind a slash, an equals sign, and what it becomes, in code points between points.
-/

namespace AuthProxy.Url.Idna

open Text

/-- A run of code points and what its first one becomes; the others of a run become what follows it. -/
structure Row where
  first : Nat
  last : Nat
  step : Nat
  targets : List Nat
deriving Repr

namespace Row

def hex (s : List Char) : Nat :=
  (numberIn? 16 s).getD 0

/-- The row that a text writes. -/
def ofText (s : List Char) : Row :=
  let source := s.takeWhile (· != '=')
  let targets := (splitAt '.' ((s.dropWhile (· != '=')).drop 1)).map hex
  let run := source.takeWhile (· != '/')
  let step := match source.dropWhile (· != '/') with
    | _ :: r => hex r
    | [] => 1
  let first := hex (run.takeWhile (· != '-'))
  let last := match run.dropWhile (· != '-') with
    | _ :: r => hex r
    | [] => first
  ⟨first, last, step, targets⟩

/-- What a code point becomes by a row, if it belongs to it. -/
def image? (row : Row) (n : Nat) : Option (List Nat) :=
  if row.first ≤ n ∧ n ≤ row.last ∧ (n - row.first) % row.step = 0 then
    some (if row.first = row.last then row.targets else row.targets.map (· + (n - row.first)))
  else none

end Row

/-- The rows of a table. -/
def rowsOf (lines : List String) : List Row :=
  lines.flatMap fun l => (splitAt ' ' l.toList).map Row.ofText

/-- What a code point becomes by a table, if it is in it. -/
def applyRows? (rows : List Row) (n : Nat) : Option (List Nat) :=
  rows.findSome? (·.image? n)

end AuthProxy.Url.Idna
