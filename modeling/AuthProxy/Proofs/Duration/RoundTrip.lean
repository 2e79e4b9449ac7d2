import AuthProxy.Duration.Writer
import AuthProxy.Proofs.Duration.Runs
import Mathlib.Data.List.Forall2

/-!
# Durations read back

What the writer of durations writes is a literal whose spans add up to the duration, with no overflow on the way up to
the greatest duration. `read_text` says that reading it gives the duration again.
-/

namespace AuthProxy.Duration

open Number Text

/-- What is left of a number that has been split into places. -/
def remainder (ps : List Place) (n : Nat) : Nat :=
  ps.foldl (fun n p => n % p.size) n

theorem remainder_le (ps : List Place) : ∀ n, remainder ps n ≤ n := by
  induction ps with
  | nil => exact fun n => Nat.le_refl n
  | cons p ps ih => exact fun n => (ih (n % p.size)).trans (Nat.mod_le n p.size)

/-- A unit that a place stands for, by its name in the singular and, where it has one, in the plural. -/
def Place.Names (p : Place) (u : TimeUnit) : Prop :=
  TimeUnit.named? p.name.toList = some u ∧ (p.plural = true → TimeUnit.named? (p.name.toList ++ ['s']) = some u)

instance (p : Place) (u : TimeUnit) : Decidable (p.Names u) :=
  inferInstanceAs (Decidable (_ ∧ _))

theorem secondPlaces_named : ∀ p ∈ secondPlaces, ∃ u ∈ TimeUnit.all, p.Names u ∧ u.size = .seconds p.size := by
  decide

theorem nanoPlaces_named : ∀ p ∈ nanoPlaces, ∃ u ∈ TimeUnit.all, p.Names u ∧ u.size = .nanos p.size := by
  decide

theorem digitsValue_decimal (n : Nat) : digitsValue (decimal n) = n := by
  have h : (decimal n).filter Char.isDigit = decimal n :=
    List.filter_eq_self.2 fun _ hc => isDigit_of_mem_decimal hc
  rw [digitsValue, h]
  exact Nat.ofDigitChars_ten_toDigits

/-- One count with its unit is a span. -/
theorem writesSpan_write {p : Place} {u : TimeUnit} (h : p.Names u) (n : Nat) :
    WritesSpan (p.write n) ⟨n, none, u⟩ := by
  obtain ⟨c, ws, hn⟩ := List.exists_cons_of_ne_nil (decimal_ne_nil n)
  have hd : ∀ x ∈ c :: ws, x.isDigit = true := fun x hx => isDigit_of_mem_decimal (hn ▸ hx)
  have hnumber : ∀ x ∈ ws, isNumberChar x = true := fun x hx => by
    rw [isNumberChar, hd x (List.mem_cons_of_mem c hx), Bool.true_or]
  have hname : TimeUnit.named? (p.name.toList ++ if p.plural ∧ 1 < n then ['s'] else []) = some u := by
    split
    next hs => exact h.2 hs.1
    · rw [List.append_nil]
      exact h.1
  have := WritesSpan.whole (hd c (by simp)) hnumber hname
  rwa [← hn, digitsValue_decimal, ← List.cons_append, ← hn, ← List.append_assoc] at this

/-- **A number split into places adds up to itself.** Amounts of one kind lead from one of the durations `reach k` to
    another, as long as they stay within the limit. -/
theorem addUp_spans {mk : Nat → Size} {reach : Nat → Duration} {limit : Nat} (hlimit : limit < 2 ^ 64)
    (hmk : ∀ n f, (mk n).scaled? f = (f n).map mk)
    (hadd : ∀ k m, k + m ≤ limit → addAmount (reach k) (some (mk m)) = .ok (reach (k + m)))
    {ps : List Place} (hps : ∀ p ∈ ps, ∃ u ∈ TimeUnit.all, p.Names u ∧ u.size = mk p.size) :
    ∀ k n, k + n ≤ limit → ∃ ss, List.Forall₂ WritesSpan (spans ps n) ss ∧
      addUp (reach k) ss = .ok (reach (k + (n - remainder ps n))) := by
  induction ps with
  | nil =>
    intro k n _
    exact ⟨[], .nil, by simp [remainder, addUp]⟩
  | cons p ps ih =>
    intro k n hn
    obtain ⟨u, -, hu, hsize⟩ := hps p (by simp)
    have hdiv : n / p.size * p.size + n % p.size = n := by
      rw [Nat.mul_comm]
      exact Nat.div_add_mod n p.size
    have hrest : remainder (p :: ps) n = remainder ps (n % p.size) := rfl
    have hle := remainder_le ps (n % p.size)
    obtain ⟨ss, hss, hadds⟩ := ih (fun q hq => hps q (by simp [hq])) (k + n / p.size * p.size) (n % p.size) (by omega)
    have hgoal : k + n / p.size * p.size + (n % p.size - remainder ps (n % p.size)) =
        k + (n - remainder (p :: ps) n) := by omega
    rw [hgoal] at hadds
    by_cases hz : n / p.size = 0
    · refine ⟨ss, by rwa [spans, if_pos hz, List.nil_append], ?_⟩
      rwa [hz, Nat.zero_mul, Nat.add_zero] at hadds
    · refine ⟨⟨n / p.size, none, u⟩ :: ss, ?_, ?_⟩
      · rw [spans, if_neg hz, List.singleton_append]
        exact .cons (writesSpan_write hu _) hss
      · have hfit : n / p.size * p.size < 2 ^ 64 := by omega
        have hcount : n / p.size ≤ n := Nat.div_le_self n p.size
        have hamount : Span.wholeAmount? ⟨n / p.size, none, u⟩ = some (mk (n / p.size * p.size)) := by
          simp only [Span.wholeAmount?, hsize, hmk, if_pos hfit, Option.map_some]
        rw [addUp, if_pos ⟨by simp only; omega, by simp⟩, Span.amounts, hamount]
        simp only [Option.toList_none, List.map_nil, sum_singleton]
        rw [hadd _ _ (by omega)]
        exact hadds

/-- The seconds of a duration add up to it, apart from its nanoseconds. -/
theorem addUp_secondSpans (d : Duration) : ∃ ss, List.Forall₂ WritesSpan (spans secondPlaces d.seconds) ss ∧
    addUp zero ss = .ok ⟨d.seconds, 0, d.seconds_lt, by decide⟩ := by
  let reach (k : Nat) : Duration :=
    ⟨min k d.seconds, 0, Nat.lt_of_le_of_lt (Nat.min_le_right k d.seconds) d.seconds_lt, by decide⟩
  have hadd : ∀ k m, k + m ≤ d.seconds → addAmount (reach k) (some (.seconds m)) = .ok (reach (k + m)) := by
    intro k m h
    have hs := d.seconds_lt
    rw [addAmount, add_seconds (by simp only [reach]; omega)]
    congr 1
    ext
    · simp only [reach]
      omega
    · rfl
  obtain ⟨ss, hss, he⟩ := addUp_spans d.seconds_lt (fun _ _ => rfl) hadd secondPlaces_named 0 d.seconds (by omega)
  have hzero : remainder secondPlaces d.seconds = 0 := by
    simp only [remainder, secondPlaces, List.foldl_cons, List.foldl_nil, Nat.mod_one]
  have hstart : reach 0 = zero := by
    ext <;> simp [reach, zero, ofSeconds]
  rw [hzero, Nat.sub_zero, Nat.zero_add, hstart] at he
  refine ⟨ss, hss, he.trans ?_⟩
  simp only [reach, Nat.min_self]

/-- Its nanoseconds add up to the rest. -/
theorem addUp_nanoSpans (d : Duration) : ∃ ss, List.Forall₂ WritesSpan (spans nanoPlaces d.nanos) ss ∧
    addUp ⟨d.seconds, 0, d.seconds_lt, by decide⟩ ss = .ok d := by
  let reach (k : Nat) : Duration :=
    ⟨d.seconds, min k d.nanos, d.seconds_lt, Nat.lt_of_le_of_lt (Nat.min_le_right k d.nanos) d.nanos_lt⟩
  have hadd : ∀ k m, k + m ≤ d.nanos → addAmount (reach k) (some (.nanos m)) = .ok (reach (k + m)) := by
    intro k m h
    have hn := d.nanos_lt
    rw [addAmount, add_nanos (by simp only [reach]; omega)]
    congr 1
    ext
    · rfl
    · simp only [reach]
      omega
  have hlimit : d.nanos < 2 ^ 64 := by
    have := d.nanos_lt
    omega
  obtain ⟨ss, hss, he⟩ := addUp_spans hlimit (fun _ _ => rfl) hadd nanoPlaces_named 0 d.nanos (by omega)
  have hzero : remainder nanoPlaces d.nanos = 0 := by
    simp only [remainder, nanoPlaces, List.foldl_cons, List.foldl_nil, Nat.mod_one]
  have hstart : reach 0 = ⟨d.seconds, 0, d.seconds_lt, by decide⟩ := by
    ext <;> simp [reach]
  rw [hzero, Nat.sub_zero, Nat.zero_add, hstart] at he
  refine ⟨ss, hss, he.trans ?_⟩
  congr 1
  ext <;> simp [reach]

/-- Spans with a space between each two are a literal. -/
theorem writes_intercalate {ts : List (List Char)} {ss : List Span} (h : List.Forall₂ WritesSpan ts ss) :
    Writes ([' '].intercalate ts) ss := by
  induction h with
  | nil => exact .nil (by simp)
  | @cons t s ts ss head tail ih =>
    cases tail with
    | nil =>
      rw [List.intercalate_singleton, ← List.append_nil t]
      exact .span head (.nil (List.forall_mem_nil _))
    | cons head' tail' =>
      rw [List.intercalate_cons_cons, List.append_assoc]
      exact .span head (ih.blank (by decide))

theorem solid_intercalate {ts : List (List Char)} (hne : ts ≠ []) (h : ∀ t ∈ ts, Solid t) :
    Solid ([' '].intercalate ts) := by
  induction ts with
  | nil => exact absurd rfl hne
  | cons t ts ih =>
    cases ts with
    | nil =>
      rw [List.intercalate_singleton]
      exact h t (by simp)
    | cons t' ts =>
      obtain ⟨c, r, rfl, hc⟩ := (h t (by simp)).1
      obtain ⟨w, l, hw, hl⟩ := (ih (by simp) fun x hx => h x (List.mem_cons_of_mem _ hx)).2
      rw [List.intercalate_cons_cons, hw]
      refine ⟨⟨c, _, rfl, hc⟩, ⟨(c :: r) ++ [' '] ++ w, l, ?_, hl⟩⟩
      rw [List.append_assoc _ w]

/-- The written form of a duration is a literal whose spans add up to the duration. -/
theorem writes_text (d : Duration) : Solid d.text ∧ ∃ ss, ss ≠ [] ∧ Writes d.text ss ∧ addUp zero ss = .ok d := by
  obtain ⟨ss, hss, hs⟩ := addUp_secondSpans d
  obtain ⟨ns, hns, hn⟩ := addUp_nanoSpans d
  have hall : List.Forall₂ WritesSpan (spans secondPlaces d.seconds ++ spans nanoPlaces d.nanos) (ss ++ ns) :=
    List.rel_append hss hns
  have hsum : addUp zero (ss ++ ns) = .ok d := by
    rw [addUp_append, hs]
    exact hn
  unfold text
  split
  next hnil =>
    -- nothing to write: the duration is empty, and `0s` stands for it
    rw [hnil] at hall
    rw [List.forall₂_nil_left_iff.1 hall] at hsum
    cases hsum
    have hspan : WritesSpan ['0', 's'] ⟨0, none, .second⟩ :=
      .whole (by decide : '0'.isDigit = true) (List.forall_mem_nil _)
        (by decide : TimeUnit.named? ['s'] = some .second)
    exact ⟨hspan.solid, [⟨0, none, .second⟩], by simp, writes_intercalate (.cons hspan .nil), by decide⟩
  next ts hne =>
    refine ⟨solid_intercalate hne fun t ht => ?_, ss ++ ns, ?_, writes_intercalate hall, hsum⟩
    · obtain ⟨i, hi, rfl⟩ := List.getElem_of_mem ht
      exact (hall.get hi (hall.length_eq ▸ hi)).solid
    · intro he
      rw [he] at hall
      exact hne (List.forall₂_nil_right_iff.1 hall)

/-- The reader takes the written form back, without its surroundings. -/
theorem ofText_text (d : Duration) : ofText d.text = .ok d := by
  obtain ⟨hsolid, ss, hne, hw, hs⟩ := writes_text d
  rw [ofText, if_neg hsolid.ne_zero, readFrom_writes hw hne, hs]

theorem trim_text (d : Duration) : trim d.text = d.text :=
  (writes_text d).1.trim

theorem trim_ofList_text (d : Duration) : trim (String.ofList d.text).toList = d.text := by
  rw [String.toList_ofList, trim_text]

/-- Blanks around the written form are no matter. -/
theorem read_of_trim {raw : String} {d : Duration} (h : trim raw.toList = d.text) : read raw = .ok d := by
  rw [read, h, ofText_text]
  rfl

/-- **Every duration is read back from its written form**, to the nanosecond and up to the greatest one. -/
theorem read_text (d : Duration) : read (String.ofList d.text) = .ok d := by
  have htrim : trim (String.ofList d.text).toList = d.text := by
    rw [String.toList_ofList, trim_text]
  exact read_of_trim htrim

end AuthProxy.Duration
