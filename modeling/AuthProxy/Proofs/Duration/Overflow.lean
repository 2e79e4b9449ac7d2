import AuthProxy.Proofs.Duration.Runs
import Mathlib.Algebra.BigOperators.Group.List.Basic
import Mathlib.Tactic.Linarith
import Mathlib.Tactic.NormNum

/-!
# Durations that are too long

When reading a duration crashes, and what becomes of literals that stand for more than the greatest duration. A text
overfills the last second (`OverfillsText`) if its first spans lead to the greatest number of seconds and the next amount of
nanoseconds makes exactly one second more; these are the texts that crash the reader (`ofText_eq_crash_iff`). A literal
that stands for too long a time and does not crash is a fault (`fault_of_literalValue`).
-/

namespace AuthProxy.Duration

open Number Text

/-! ## Spans -/

/-- An amount of nanoseconds that makes exactly one more second, where there is none left. -/
def Size.Overfills (a : Size) (d : Duration) : Prop :=
  ∃ n, a = .nanos n ∧ d.nanos + n = 10 ^ 9 ∧ d.seconds + 1 = 2 ^ 64

/-- A span of which the whole part or the fraction overfills the last second. -/
def Span.Overfills (s : Span) (d : Duration) : Prop :=
  (∃ a, s.wholeAmount? = some a ∧ a.Overfills d) ∨
    ∃ e p a, addAmount d s.wholeAmount? = .ok e ∧ s.part = some p ∧ s.partAmount? p = some a ∧ a.Overfills e

theorem addAmount_eq_crash_iff {d : Duration} {a : Option Size} :
    addAmount d a = .error .crash ↔ ∃ x, a = some x ∧ x.Overfills d := by
  match a with
  | none =>
    constructor
    · intro h
      cases h
    · rintro ⟨_, h, -⟩
      cases h
  | some (.nanos n) =>
    rw [addAmount, add_eq_crash_iff]
    constructor
    · rintro ⟨hn, hs⟩
      exact ⟨_, rfl, n, rfl, hn, hs⟩
    · rintro ⟨_, h, _, rfl, hn, hs⟩
      cases h
      exact ⟨hn, hs⟩
  | some (.seconds n) =>
    have hd := d.nanos_lt
    rw [addAmount, add_eq_crash_iff]
    constructor
    · rintro ⟨hn, -⟩
      omega
    · rintro ⟨_, h, _, rfl, -⟩
      cases h

theorem sum_amounts_eq_crash_iff {d : Duration} {s : Span} :
    sum d s.amounts = .error .crash ↔ s.Overfills d := by
  rw [Span.amounts, sum_cons, Outcome.bind_eq_error_iff, addAmount_eq_crash_iff]
  apply or_congr_right
  constructor
  · rintro ⟨e, he, h⟩
    cases hp : s.part with
    | none =>
      rw [hp] at h
      cases h
    | some p =>
      rw [hp, Option.toList_some, List.map_singleton, sum_singleton] at h
      obtain ⟨a, ha, ho⟩ := addAmount_eq_crash_iff.1 h
      exact ⟨e, p, a, he, rfl, ha, ho⟩
  · rintro ⟨e, p, a, he, hp, ha, ho⟩
    refine ⟨e, he, ?_⟩
    rw [hp, Option.toList_some, List.map_singleton, sum_singleton]
    exact addAmount_eq_crash_iff.2 ⟨a, ha, ho⟩

/-! ## Literals -/

theorem addUp_singleton {d : Duration} {s : Span} (h : s.Fits) : addUp d [s] = sum d s.amounts := by
  rw [addUp, if_pos h]
  cases sum d s.amounts <;> rfl

/-- A literal that adds up is read for what it stands for. -/
theorem addUp_total {ss : List Span} :
    ∀ {d e : Duration}, addUp d ss = .ok e → (e.total : ℚ) = d.total + literalValue ss := by
  induction ss with
  | nil =>
    intro d e h
    cases h
    simp [literalValue]
  | cons s ss ih =>
    intro d e h
    rw [addUp] at h
    split at h
    · obtain ⟨d', hd, h⟩ := Outcome.bind_eq_ok_iff.1 h
      rw [ih h, sum_amounts_total hd, literalValue, literalValue, List.map_cons, List.sum_cons, add_assoc]
    · cases h

/-! ## Texts -/

/-- A text whose first spans overfill the last second: those before the last one lead to the greatest number of
    seconds, and the last one makes exactly one second more. -/
def OverfillsText (d : Duration) (t : List Char) : Prop :=
  ∃ u r ss s e, t = u ++ r ∧ Writes u (ss ++ [s]) ∧ FollowsUnit r ∧ addUp d ss = .ok e ∧ s.Fits ∧ s.Overfills e

theorem readFrom_of_overfills {d : Duration} {t : List Char} (h : OverfillsText d t) (started : Bool) (offset : Nat) :
    readFrom (.gap started) offset d t = .error .crash := by
  obtain ⟨u, r, ss, s, e, rfl, hw, hr, he, hfit, ho⟩ := h
  obtain ⟨offset', hread⟩ := readFrom_writes_append hw started offset d
  rw [hread r hr, addUp_append, he]
  change (addUp e [s] >>= _) = _
  rw [addUp_singleton hfit, sum_amounts_eq_crash_iff.2 ho]
  rfl

/-- Behind a letter there is the name of a unit that ends properly, or the reader reports a fault. -/
theorem named_or_fault (l : Char) (t : List Char) :
    (∃ name r u, t = name ++ r ∧ TimeUnit.named? (l :: name) = some u ∧ FollowsUnit r) ∨
      ∀ count part offset d, ∃ m, readFrom (.unit count part [l]) offset d t = report m := by
  obtain ⟨name, r, ht, hletters, hrest⟩ := exists_run isUnitLetter t
  by_cases hr : FollowsUnit r
  · cases hu : TimeUnit.named? (l :: name) with
    | some u => exact .inl ⟨name, r, u, ht, hu, hr⟩
    | none =>
      refine .inr fun count part offset d => ?_
      obtain ⟨offset', he⟩ := readFrom_letters d count part hletters offset [l]
      rw [ht, he, readFrom_unit_end hr, closeSpan]
      simp only [List.reverse_append, List.reverse_reverse, List.reverse_singleton, List.singleton_append, hu]
      exact ⟨_, rfl⟩
  · refine .inr fun count part offset d => ?_
    obtain ⟨offset', he⟩ := readFrom_letters d count part hletters offset [l]
    rw [ht, he]
    cases r with
    | nil => exact absurd followsUnit_nil hr
    | cons x r =>
      have hx : isUnitLetter x = false := hrest x rfl
      have hx' : isBlank x = false ∧ x.isDigit = false := by
        rw [← Bool.or_eq_false_iff]
        refine Bool.eq_false_iff.2 fun h => hr fun c hc => ?_
        cases hc
        exact Bool.or_eq_true _ _ ▸ h
      simp only [readFrom, hx, hx'.1, hx'.2, Bool.false_eq_true, if_false]
      exact ⟨_, rfl⟩

/-- No unit has an empty name. -/
theorem closeSpan_nil (d : Duration) (count : Nat) (part : Option Fraction) :
    closeSpan d count part [] = report (.unitMissing count) := by
  have h : TimeUnit.named? [] = none := by decide
  simp only [closeSpan, List.reverse_nil, h, List.isEmpty_nil, if_true]

theorem not_isNumberChar_iff {c : Char} : isNumberChar c = false ↔ c.isDigit = false ∧ isBlank c = false :=
  Bool.or_eq_false_iff

/-- Behind a point there is a fraction with a unit, or the reader reports a fault. -/
theorem fraction_or_fault (t : List Char) :
    (∃ fs name r u, t = fs ++ (name ++ r) ∧ (∀ c ∈ fs, isNumberChar c = true) ∧ fs.filter Char.isDigit ≠ [] ∧
      TimeUnit.named? name = some u ∧ FollowsUnit r) ∨
      ∀ count mark offset d, ∃ m, readFrom (.fraction count ⟨0, 1⟩ mark) offset d t = report m := by
  obtain ⟨fs, r, rfl, hfs, hr⟩ := exists_run isNumberChar t
  -- within the digits only their size can be at fault, so that the matter is what stands behind them
  have hdigits : (∀ count mark offset d, ∃ m, readFrom (.fraction count (digitsFraction fs) mark) offset d r = report m) →
      ∀ count mark offset d, ∃ m, readFrom (.fraction count ⟨0, 1⟩ mark) offset d (fs ++ r) = report m := by
    intro h count mark offset d
    obtain ⟨offset', mark', he⟩ := readFrom_fraction d count hfs offset mark ⟨0, 1⟩ ⟨by decide, by decide⟩
    rw [he r, extend_zero_one]
    split
    · exact h count mark' offset' d
    · exact ⟨_, rfl⟩
  cases r with
  | nil =>
    refine .inr (hdigits fun count mark offset d => ?_)
    simp only [readFrom, closeSpan_nil]
    split <;> exact ⟨_, rfl⟩
  | cons x r =>
    obtain ⟨hd, hb⟩ := not_isNumberChar_iff.1 (hr x rfl)
    by_cases hl : isUnitLetter x = true ∧ fs.filter Char.isDigit ≠ []
    · rcases named_or_fault x r with ⟨name, r, u, rfl, hu, hend⟩ | h
      · exact .inl ⟨fs, x :: name, r, u, rfl, hfs, hl.2, hu, hend⟩
      · refine .inr (hdigits fun count mark offset d => ?_)
        rw [readFrom_fraction_letter hl.1 (denominator_ne_one hl.2)]
        exact h count _ _ d
    · refine .inr (hdigits fun count mark offset d => ?_)
      have hden : ¬ (isUnitLetter x = true ∧ (digitsFraction fs).denominator ≠ 1) := by
        rintro ⟨hx, hden⟩
        refine hl ⟨hx, fun h => hden ?_⟩
        rw [digitsFraction, h]
        rfl
      simp only [readFrom, hd, hb, Bool.false_eq_true, if_false]
      rw [if_neg hden]
      exact ⟨_, rfl⟩

/-- **A text that starts with a digit** starts with a span that ends properly, or the reader reports a fault. -/
theorem writesSpan_or_fault {c : Char} (hc : c.isDigit = true) (t : List Char) :
    (∃ u r s, c :: t = u ++ r ∧ WritesSpan u s ∧ FollowsUnit r) ∨
      ∀ started offset d, ∃ m, readFrom (.gap started) offset d (c :: t) = report m := by
  obtain ⟨ws, r, rfl, hws, hr⟩ := exists_run isNumberChar t
  have hdigits : (∀ count offset d, ∃ m, readFrom (.whole count) offset d r = report m) →
      ∀ started offset d, ∃ m, readFrom (.gap started) offset d (c :: (ws ++ r)) = report m := by
    intro h started offset d
    obtain ⟨offset', he⟩ := readFrom_number d hws (offset + c.utf8Size) _ (first_digit_lt hc)
    rw [readFrom_first_digit hc, he]
    split
    · exact h _ offset' d
    · exact ⟨_, rfl⟩
  cases r with
  | nil =>
    refine .inr (hdigits fun count offset d => ?_)
    simp only [readFrom, closeSpan_nil]
    exact ⟨_, rfl⟩
  | cons x r =>
    obtain ⟨hd, hb⟩ := not_isNumberChar_iff.1 (hr x rfl)
    by_cases hl : isUnitLetter x = true
    · rcases named_or_fault x r with ⟨name, r, u, rfl, hu, hend⟩ | h
      · refine .inl ⟨c :: (ws ++ x :: name), r, _, ?_, .whole hc hws hu, hend⟩
        rw [List.cons_append, List.append_assoc, List.cons_append]
      · refine .inr (hdigits fun count offset d => ?_)
        rw [readFrom_whole_letter hl]
        exact h count none _ d
    · by_cases hp : x = '.'
      · subst hp
        rcases fraction_or_fault r with ⟨fs, name, r, u, rfl, hfs, hsome, hu, hend⟩ | h
        · refine .inl ⟨c :: (ws ++ '.' :: (fs ++ name)), r, _, ?_, .divided hc hws hfs hsome hu, hend⟩
          rw [List.cons_append, List.append_assoc, List.cons_append, List.append_assoc]
        · refine .inr (hdigits fun count offset d => ?_)
          rw [readFrom_point]
          exact h count _ _ d
      · refine .inr (hdigits fun count offset d => ?_)
        simp only [readFrom, hd, hb, hl, hp, Bool.false_eq_true, if_false]
        exact ⟨_, rfl⟩

/-- **The reader crashes** exactly on the texts whose first spans overfill the last second. -/
theorem readFrom_eq_crash_iff {started : Bool} {offset : Nat} {d : Duration} {t : List Char} :
    readFrom (.gap started) offset d t = .error .crash ↔ OverfillsText d t := by
  refine ⟨fun h => ?_, fun h => readFrom_of_overfills h started offset⟩
  induction hn : t.length using Nat.strongRecOn generalizing started offset d t with
  | ind n ih =>
    obtain ⟨bs, t, rfl, hbs, ht⟩ := exists_run isBlank t
    obtain ⟨offset', hb⟩ := readFrom_blanks started d hbs offset
    rw [hb] at h
    cases t with
    | nil =>
      simp only [readFrom] at h
      split at h <;> cases h
    | cons c t =>
      by_cases hc : c.isDigit = true
      · rcases writesSpan_or_fault hc t with ⟨u, r, s, hu, hw, hr⟩ | hf
        · rw [hu] at h hn ⊢
          obtain ⟨offset₂, hs⟩ := readFrom_span hw started offset' d
          rw [hs r hr] at h
          split at h
          next hfit =>
            rcases Outcome.bind_eq_error_iff.1 h with h | ⟨e, he, h⟩
            · -- the first span crashes by itself
              refine ⟨bs ++ u, r, [], s, d, (List.append_assoc _ _ _).symm, ?_, hr, rfl, hfit,
                sum_amounts_eq_crash_iff.1 h⟩
              have := Writes.cons hbs hw (.nil (List.forall_mem_nil _))
              rwa [List.append_nil] at this
            · -- the first span is read, and the crash is in what follows it
              obtain ⟨u', r', ss, s', e', rfl, hw', hr', he', hfit', ho⟩ := ih r.length (by
                obtain ⟨x, y, rfl, -⟩ := hw.exists_digit
                simp only [List.length_append, List.length_cons] at hn
                omega) h rfl
              refine ⟨bs ++ u ++ u', r', s :: ss, s', e', ?_, .cons hbs hw hw', hr', ?_, hfit', ho⟩
              · simp only [List.append_assoc]
              · rw [addUp, if_pos hfit, he]
                exact he'
          · cases h
        · obtain ⟨m, hm⟩ := hf started offset' d
          rw [hm] at h
          cases h
      · simp only [readFrom, ht c rfl, hc, Bool.false_eq_true, if_false] at h
        cases h

/-! ## Whole texts -/

/-- A text that the reader takes as spans is not the lone `0`, which has no unit. -/
theorem ne_zero_of_writes {u r : List Char} {ss : List Span} (hw : Writes u ss) (hne : ss ≠ []) : u ++ r ≠ ['0'] := by
  obtain ⟨l, hmem, hl⟩ := hw.exists_letter hne
  intro h
  have hzero : l ∈ ['0'] := h ▸ List.mem_append_left r hmem
  rw [List.mem_singleton.1 hzero] at hl
  exact absurd hl (by decide)

theorem ofText_eq_crash_iff {t : List Char} : ofText t = .error .crash ↔ OverfillsText zero t := by
  unfold ofText
  split
  next hz =>
    refine ⟨fun h => (nomatch h), ?_⟩
    rintro ⟨u, r, ss, s, e, ht, hw, -⟩
    exact absurd (ht ▸ hz) (ne_zero_of_writes hw (by simp))
  · exact readFrom_eq_crash_iff

/-- A text that overfills the last second when it is read as a duration, blanks around it left out. -/
def Overfills (raw : String) : Prop :=
  OverfillsText zero (trim raw.toList)

/-- **Reading a duration crashes** exactly on the texts that overfill the last second. -/
theorem read_eq_crash {raw : String} : read raw = .error .crash ↔ Overfills raw := by
  rw [read, Outcome.mapFault_eq_crash_iff, ofText_eq_crash_iff, Overfills]

/-- **A literal that stands for more than the greatest duration** is a fault, unless it overfills the last second. -/
theorem fault_of_literalValue {raw : String} {ss : List Span} (hw : Writes (trim raw.toList) ss) (hne : ss ≠ [])
    (hlong : 2 ^ 64 * 10 ^ 9 - 1 < literalValue ss) (hover : ¬ Overfills raw) :
    ∃ reason, read raw = .error (.fault reason) := by
  rcases h : read raw with (reason | _) | d
  · exact ⟨reason, rfl⟩
  · exact absurd (read_eq_crash.1 h) hover
  · rw [read, Outcome.mapFault_eq_ok_iff, ofText, if_neg, readFrom_writes hw hne] at h
    · have hle : (d.total : ℚ) ≤ 2 ^ 64 * 10 ^ 9 - 1 := by
        have hlt : (d.total : ℚ) + 1 ≤ 2 ^ 64 * 10 ^ 9 := by exact_mod_cast d.total_lt
        linarith
      have hzero : zero.total = 0 := rfl
      rw [addUp_total h, hzero, Nat.cast_zero, zero_add] at hle
      exact absurd hlong (not_lt.2 hle)
    · have := ne_zero_of_writes (r := []) hw hne
      rwa [List.append_nil] at this

end AuthProxy.Duration
