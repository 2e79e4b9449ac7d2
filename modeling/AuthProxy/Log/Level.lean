import AuthProxy.Number.Decimal

/-!
# Levels of logging

How much is logged: each level includes the ones before it. A level is written by its name or by its number.
-/

namespace AuthProxy.Log

open Number

/-- How much is logged. -/
inductive Level where
  | off | error | warn | info | debug | trace
deriving Repr, DecidableEq

namespace Level

def all : List Level :=
  [off, error, warn, info, debug, trace]

/-- The number of a level. -/
def rank : Level → Nat
  | off => 0
  | error => 1
  | warn => 2
  | info => 3
  | debug => 4
  | trace => 5

/-- The name of a level. -/
def name : Level → List Char
  | off => "off".toList
  | error => "error".toList
  | warn => "warn".toList
  | info => "info".toList
  | debug => "debug".toList
  | trace => "trace".toList

/-- Whether what is logged at `other` is logged at this level. -/
def includes (level other : Level) : Bool :=
  decide (other.rank ≤ level.rank)

/-- The level that a text writes: a number of 64 bits, or a name in small letters. -/
def read? (s : List Char) : Option Level :=
  match readBounded? (2 ^ 64) s with
  | some n => all[n]?
  | none => all.find? (·.name = s)

theorem read?_name (l : Level) : read? l.name = some l := by
  cases l <;> decide

end Level

end AuthProxy.Log
