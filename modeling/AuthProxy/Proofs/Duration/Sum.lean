import AuthProxy.Duration.Reader
import Mathlib.Algebra.Order.Field.Rat
import Mathlib.Data.Nat.Cast.Field
import Mathlib.Tactic.Ring

/-!
# Adding up durations

What adding to a duration gives, in one number of nanoseconds (`add_total`), when it cannot fail (`add_seconds`,
`add_nanos`), and the one case in which it crashes (`add_eq_crash_iff`). A span of a literal adds one or two amounts,
its whole part and its fraction; `sum` adds amounts one after another, and `addSpan_eq` says that the reader does so.
-/

namespace AuthProxy.Duration

open Number Text

/-- The whole duration in nanoseconds. -/
def total (d : Duration) : Nat :=
  d.seconds * 10 ^ 9 + d.nanos

theorem total_lt (d : Duration) : d.total < 2 ^ 64 * 10 ^ 9 := by
  have hs := d.seconds_lt
  have hn := d.nanos_lt
  unfold total
  omega

theorem add_seconds {d : Duration} {n : Nat} (h : d.seconds + n < 2 ^ 64) :
    d.add n 0 = .ok ⟨d.seconds + n, d.nanos, h, d.nanos_lt⟩ := by
  have hn := d.nanos_lt
  have h1 : ¬ 2 ^ 64 ≤ d.nanos + 0 := by omega
  have h2 : ¬ 10 ^ 9 < d.nanos + 0 := by omega
  simp only [add, if_neg h1, if_neg h2, dif_pos h, carried]
  rw [dif_pos (by omega)]
  rfl

theorem add_nanos {d : Duration} {n : Nat} (h : d.nanos + n < 10 ^ 9) :
    d.add 0 n = .ok ⟨d.seconds, d.nanos + n, d.seconds_lt, h⟩ := by
  have hs := d.seconds_lt
  have h1 : ¬ 2 ^ 64 ≤ d.nanos + n := by omega
  have h2 : ¬ 10 ^ 9 < d.nanos + n := by omega
  simp only [add, if_neg h1, if_neg h2, Nat.add_zero, dif_pos hs, carried, dif_pos h]

/-- A full second of nanoseconds is carried over, and nothing is lost. -/
theorem carried_total {s n : Nat} {hs : s < 2 ^ 64} {e : Duration} (hn : n ≤ 10 ^ 9)
    (h : carried s n hs = .ok e) : e.total = s * 10 ^ 9 + n := by
  unfold carried at h
  split at h
  · cases h
    rfl
  · split at h
    · cases h
      simp only [total]
      omega
    · cases h

/-- A sum that is a duration is exact. -/
theorem add_total {d e : Duration} {s n : Nat} (h : d.add s n = .ok e) :
    e.total = d.total + s * 10 ^ 9 + n := by
  have hd := d.nanos_lt
  unfold add at h
  simp only at h
  split at h
  · cases h
  · by_cases hn : 10 ^ 9 < d.nanos + n
    · simp only [if_pos hn] at h
      split at h
      · rw [carried_total (by omega) h]
        unfold total
        omega
      · cases h
    · simp only [if_neg hn] at h
      split at h
      · rw [carried_total (by omega) h]
        unfold total
        omega
      · cases h

theorem carried_eq_crash_iff {s n : Nat} {hs : s < 2 ^ 64} :
    carried s n hs = .error .crash ↔ 10 ^ 9 ≤ n ∧ s + 1 = 2 ^ 64 := by
  unfold carried
  constructor
  · intro h
    split at h
    · cases h
    · split at h
      · cases h
      · exact ⟨by omega, by omega⟩
  · rintro ⟨hn, h⟩
    rw [dif_neg (by omega), dif_neg (by omega)]

/-- **Adding crashes** exactly where the nanoseconds make one full second and the seconds are the greatest. -/
theorem add_eq_crash_iff {d : Duration} {s n : Nat} :
    d.add s n = .error .crash ↔ d.nanos + n = 10 ^ 9 ∧ d.seconds + s + 1 = 2 ^ 64 := by
  have hd := d.nanos_lt
  unfold add
  simp only
  constructor
  · intro h
    split at h
    · cases h
    · by_cases hn : 10 ^ 9 < d.nanos + n
      · simp only [if_pos hn] at h
        split at h
        · have := (carried_eq_crash_iff.1 h).1
          omega
        · cases h
      · simp only [if_neg hn] at h
        split at h
        · have := carried_eq_crash_iff.1 h
          omega
        · cases h
  · rintro ⟨hn, hs⟩
    rw [if_neg (by omega)]
    simp only [if_neg (show ¬ 10 ^ 9 < d.nanos + n by omega)]
    rw [dif_pos (by omega)]
    exact carried_eq_crash_iff.2 ⟨by omega, hs⟩

/-! ## Amounts -/

/-- A size as a number of nanoseconds. -/
def Size.total : Size → Nat
  | .nanos n => n
  | .seconds n => n * 10 ^ 9

/-- The duration lengthened by an amount; nothing stands for one that is out of range. -/
def addAmount (d : Duration) : Option Size → Outcome Malformed Duration
  | none => report .outOfRange
  | some (.nanos n) => d.add 0 n
  | some (.seconds n) => d.add n 0

/-- The duration lengthened by amounts one after another. -/
def sum (d : Duration) (as : List (Option Size)) : Outcome Malformed Duration :=
  as.foldlM addAmount d

/-- The size with its number replaced by what `f` makes of it. -/
def Size.scaled? (f : Nat → Option Nat) : Size → Option Size
  | .nanos n => (f n).map .nanos
  | .seconds n => (f n).map .seconds

/-- A span of a literal: a count, perhaps a fraction behind it, and the unit of both. -/
structure Span where
  count : Nat
  part : Option Fraction
  unit : TimeUnit
deriving Repr, DecidableEq

namespace Span

/-- What the count of a span adds, if it fits 64 bits. -/
def wholeAmount? (s : Span) : Option Size :=
  s.unit.size.scaled? fun n => if s.count * n < 2 ^ 64 then some (s.count * n) else none

/-- What a fraction of the unit of a span adds, if it fits 64 bits and comes out even. -/
def partAmount? (s : Span) (p : Fraction) : Option Size :=
  s.unit.fractionSize?.bind <| Size.scaled? fun n =>
    if p.numerator * n < 2 ^ 64 ∧ p.numerator * n % p.denominator = 0 then
      some (p.numerator * n / p.denominator)
    else none

/-- The amounts that a span adds one after another. -/
def amounts (s : Span) : List (Option Size) :=
  s.wholeAmount? :: s.part.toList.map s.partAmount?

/-- The fraction of a span; a span without one has none of its unit. -/
def fractionValue (s : Span) : ℚ :=
  match s.part with
  | none => 0
  | some p => p.numerator / p.denominator

/-- What a span stands for, in nanoseconds and without any bound. -/
def value (s : Span) : ℚ :=
  (s.count + s.fractionValue) * s.unit.size.total

end Span

/-- What a literal stands for, in nanoseconds and without any bound. -/
def literalValue (ss : List Span) : ℚ :=
  (ss.map Span.value).sum

@[simp] theorem sum_cons (d : Duration) (a : Option Size) (as : List (Option Size)) :
    sum d (a :: as) = addAmount d a >>= fun e => sum e as := rfl

theorem sum_singleton (d : Duration) (a : Option Size) : sum d [a] = addAmount d a := by
  rw [sum_cons]
  cases addAmount d a <;> rfl

/-- A number that is in range, or the fault that it is not. -/
def inRange : Option Nat → Outcome Malformed Nat
  | some n => .ok n
  | none => report .outOfRange

theorem addAmount_scaled (d : Duration) (size : Size) (f : Nat → Option Nat) :
    addAmount d (size.scaled? f) =
      match size with
      | .nanos n => inRange (f n) >>= fun k => d.add 0 k
      | .seconds n => inRange (f n) >>= fun k => d.add k 0 := by
  cases size with
  | nanos n => cases h : f n <;> simp only [Size.scaled?, h] <;> rfl
  | seconds n => cases h : f n <;> simp only [Size.scaled?, h] <;> rfl

theorem addTimes_eq (d : Duration) (s : Span) :
    addTimes d s.count s.unit.size = addAmount d s.wholeAmount? := by
  have hb : ∀ n, bounded n = inRange (if n < 2 ^ 64 then some n else none) := by
    intro n
    unfold bounded
    split <;> rfl
  rw [Span.wholeAmount?, addAmount_scaled]
  cases s.unit.size with
  | nanos n => simp only [addTimes, hb]
  | seconds n => simp only [addTimes, hb]

theorem addFraction_eq (d : Duration) (p : Fraction) (size : Size) :
    addFraction d p size = addAmount d (size.scaled? fun n =>
      if p.numerator * n < 2 ^ 64 ∧ p.numerator * n % p.denominator = 0 then
        some (p.numerator * n / p.denominator)
      else none) := by
  have hd : ∀ n, (do
      let product ← bounded (p.numerator * n)
      if product % p.denominator = 0 then .ok (product / p.denominator) else report .outOfRange) =
        inRange (if p.numerator * n < 2 ^ 64 ∧ p.numerator * n % p.denominator = 0 then
          some (p.numerator * n / p.denominator) else none) := by
    intro n
    unfold bounded
    by_cases hn : p.numerator * n < 2 ^ 64
    · by_cases he : p.numerator * n % p.denominator = 0
      · rw [if_pos hn, if_pos ⟨hn, he⟩]
        exact if_pos he
      · rw [if_pos hn, if_neg fun h => he h.2]
        exact if_neg he
    · rw [if_neg hn, if_neg fun h => hn h.1]
      rfl
  rw [addAmount_scaled]
  cases size with
  | nanos n => simp only [addFraction, hd]
  | seconds n => simp only [addFraction, hd]

/-- The reader adds the amounts of a span one after another. -/
theorem addSpan_eq (d : Duration) (s : Span) :
    addSpan d s.count s.part s.unit = sum d s.amounts := by
  rw [addSpan, addTimes_eq, Span.amounts, sum_cons]
  congr 1
  funext e
  cases hp : s.part with
  | none => rfl
  | some p =>
    rw [Option.toList_some, List.map_singleton, sum_singleton]
    cases hu : s.unit.fractionSize? with
    | none => simp only [Span.partAmount?, hu]; rfl
    | some size => simp only [Span.partAmount?, hu, addFraction_eq]; rfl

/-! ## What a literal stands for -/

/-- The amount that is added, in nanoseconds. -/
theorem addAmount_total {d e : Duration} {a : Option Size} (h : addAmount d a = .ok e) :
    ∃ x, a = some x ∧ e.total = d.total + x.total := by
  match a with
  | none => cases h
  | some (.nanos n) => exact ⟨_, rfl, by simpa [Size.total] using add_total h⟩
  | some (.seconds n) => exact ⟨_, rfl, by simpa [Size.total] using add_total h⟩

theorem scaled?_total {size a : Size} {f : Nat → Option Nat} (h : size.scaled? f = some a) :
    ∃ n k, f n = some k ∧ ((size = .nanos n ∧ a = .nanos k) ∨ (size = .seconds n ∧ a = .seconds k)) := by
  cases size with
  | nanos n =>
    obtain ⟨k, hk, rfl⟩ := Option.map_eq_some_iff.1 h
    exact ⟨n, k, hk, .inl ⟨rfl, rfl⟩⟩
  | seconds n =>
    obtain ⟨k, hk, rfl⟩ := Option.map_eq_some_iff.1 h
    exact ⟨n, k, hk, .inr ⟨rfl, rfl⟩⟩

theorem wholeAmount_total {s : Span} {a : Size} (h : s.wholeAmount? = some a) :
    (a.total : ℚ) = s.count * s.unit.size.total := by
  obtain ⟨n, k, hk, hs⟩ := scaled?_total h
  split at hk
  · cases hk
    rcases hs with ⟨hn, rfl⟩ | ⟨hn, rfl⟩ <;> rw [hn] <;> simp [Size.total, mul_assoc]
  · cases hk

/-- The fraction of a unit is taken of the same time as the unit, though it may be counted in other units. -/
theorem fractionSize_total {u : TimeUnit} {size : Size} (h : u.fractionSize? = some size) :
    size.total = u.size.total := by
  cases u <;> cases h <;> rfl

theorem partAmount_total {s : Span} {p : Fraction} {a : Size} (h : s.partAmount? p = some a) :
    (a.total : ℚ) = p.numerator / p.denominator * s.unit.size.total := by
  obtain ⟨size, hu, h⟩ := Option.bind_eq_some_iff.1 h
  rw [← fractionSize_total hu]
  obtain ⟨n, k, hk, hs⟩ := scaled?_total h
  split at hk
  next he =>
    cases hk
    have hdvd : p.denominator ∣ p.numerator * n := Nat.dvd_of_mod_eq_zero he.2
    rcases hs with ⟨rfl, rfl⟩ | ⟨rfl, rfl⟩ <;> simp only [Size.total] <;> push_cast [Nat.cast_div_charZero hdvd] <;> ring
  · cases hk

/-- What a span adds is what it stands for. -/
theorem sum_amounts_total {d e : Duration} {s : Span} (h : sum d s.amounts = .ok e) :
    (e.total : ℚ) = d.total + s.value := by
  unfold Span.amounts at h
  rw [sum_cons] at h
  obtain ⟨d', hd, h⟩ : ∃ d', addAmount d s.wholeAmount? = .ok d' ∧ sum d' (s.part.toList.map s.partAmount?) = .ok e := by
    cases hd : addAmount d s.wholeAmount? with
    | error e => rw [hd] at h; cases h
    | ok d' => rw [hd] at h; exact ⟨d', rfl, h⟩
  obtain ⟨a, ha, hd'⟩ := addAmount_total hd
  have hw := wholeAmount_total ha
  unfold Span.value Span.fractionValue
  cases hp : s.part with
  | none =>
    rw [hp] at h
    cases h
    simp only [hd', Nat.cast_add, hw]
    ring
  | some p =>
    rw [hp, Option.toList_some, List.map_singleton, sum_singleton] at h
    obtain ⟨b, hb, he⟩ := addAmount_total h
    simp only [he, hd', Nat.cast_add, hw, partAmount_total hb]
    ring

end AuthProxy.Duration
