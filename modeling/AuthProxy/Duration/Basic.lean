import AuthProxy.Number.Power
import AuthProxy.Outcome

/-!
# Durations

A span of time in whole seconds and nanoseconds. The seconds fit 64 bits and the nanoseconds are a proper
fraction of a second, which the type carries as proofs. Adding reports an overflow as a fault, apart from the one
case where it crashes: the nanoseconds make exactly one second and the seconds are already the greatest.
-/

namespace AuthProxy

/-- A span of time; the seconds fit 64 bits. -/
structure Duration where
  seconds : Nat
  nanos : Nat
  seconds_lt : seconds < 2 ^ 64
  nanos_lt : nanos < 10 ^ 9
deriving Repr, DecidableEq

namespace Duration

/-- A whole number of seconds. -/
def ofSeconds (n : Nat) (h : n < 2 ^ 64 := by decide) : Duration :=
  ⟨n, 0, h, by decide⟩

/-- The empty duration. -/
def zero : Duration :=
  ofSeconds 0

@[ext] theorem ext {d e : Duration} (hs : d.seconds = e.seconds) (hn : d.nanos = e.nanos) : d = e := by
  cases d; cases e; cases hs; cases hn; rfl

/-- Why a text is not a duration. Offsets count bytes from its start. -/
inductive Malformed where
  | empty
  | numberExpected (offset : Nat)
  | invalidCharacter (offset : Nat)
  | unitMissing (count : Nat)
  | unknownUnit (name : List Char)
  | outOfRange
deriving Repr, DecidableEq

/-- The duration of `seconds` and up to 10^9 nanoseconds; a full second of them is carried over, and where that
    leaves the range the process crashes. -/
def carried (seconds nanos : Nat) (hs : seconds < 2 ^ 64) : Outcome Malformed Duration :=
  if hn : nanos < 10 ^ 9 then .ok ⟨seconds, nanos, hs, hn⟩
  else if h : seconds + 1 < 2 ^ 64 then .ok ⟨seconds + 1, 0, h, by decide⟩
  else .error .crash

/-- The sum of a duration and an amount of seconds and nanoseconds. More than 10^9 nanoseconds are carried into
    the seconds before these are checked, exactly 10^9 after. -/
def add (d : Duration) (seconds nanos : Nat) : Outcome Malformed Duration :=
  let n := d.nanos + nanos
  if 2 ^ 64 ≤ n then report .outOfRange
  else
    let (s, n) := if 10 ^ 9 < n then (seconds + n / 10 ^ 9, n % 10 ^ 9) else (seconds, n)
    if h : d.seconds + s < 2 ^ 64 then carried (d.seconds + s) n h else report .outOfRange

end Duration

end AuthProxy
