import AuthProxy.Duration.Basic
import AuthProxy.Number.Decimal

/-!
# Writing durations

A duration is split into years, months, days and so on down to nanoseconds, and the counts that are not zero are
written in that order with a space between them.
-/

namespace AuthProxy.Duration

open Number

/-- A place of the written form: its size in the base that is split, its name, and whether a count above one
    puts an `s` behind it. -/
structure Place where
  size : Nat
  name : String
  plural : Bool

/-- The places that the seconds are split into. -/
def secondPlaces : List Place :=
  [⟨31557600, "year", true⟩, ⟨2630016, "month", true⟩, ⟨86400, "day", true⟩, ⟨3600, "h", false⟩,
   ⟨60, "m", false⟩, ⟨1, "s", false⟩]

/-- The places that the nanoseconds are split into. -/
def nanoPlaces : List Place :=
  [⟨1000000, "ms", false⟩, ⟨1000, "us", false⟩, ⟨1, "ns", false⟩]

/-- One count with its unit. -/
def Place.write (p : Place) (count : Nat) : List Char :=
  decimal count ++ p.name.toList ++ if p.plural ∧ 1 < count then ['s'] else []

/-- The spans of `n`, which is split into places from the greatest on; a zero count is left out. -/
def spans : List Place → Nat → List (List Char)
  | [], _ => []
  | p :: ps, n => (if n / p.size = 0 then [] else [p.write (n / p.size)]) ++ spans ps (n % p.size)

/-- The written form of a duration. -/
def text (d : Duration) : List Char :=
  match spans secondPlaces d.seconds ++ spans nanoPlaces d.nanos with
  | [] => ['0', 's']
  | parts => [' '].intercalate parts

end AuthProxy.Duration
