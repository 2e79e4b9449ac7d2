import AuthProxy.Proofs.Duration.Literal

/-!
# The reader on runs of characters

What the reader of durations does on a run of blanks, of characters of a number or of letters, whatever follows. The
numbers that it keeps are those of the grammar, as long as they fit 64 bits, and a fault where they do not; offsets are
left open, since they show in messages only. `readFrom_span` puts the runs of a span together.
-/

namespace AuthProxy.Duration

open Number Text

theorem readFrom_blanks (started : Bool) (d : Duration) {bs : List Char} (h : ∀ c ∈ bs, isBlank c = true) :
    ∀ offset, ∃ offset', ∀ t,
      readFrom (.gap started) offset d (bs ++ t) = readFrom (.gap started) offset' d t := by
  induction bs with
  | nil => exact fun offset => ⟨offset, fun _ => rfl⟩
  | cons c r ih =>
    intro offset
    obtain ⟨offset', hr⟩ := ih (fun x hx => h x (by simp [hx])) (offset + c.utf8Size)
    refine ⟨offset', fun t => ?_⟩
    rw [List.cons_append, readFrom]
    simp only [h c (by simp), if_true, hr t]

/-- Digits never make a number smaller. -/
theorem le_ofDigitChars (ds : List Char) : ∀ n, n ≤ Nat.ofDigitChars 10 ds n := by
  induction ds with
  | nil => intro n; simp
  | cons c r ih =>
    intro n
    rw [Nat.ofDigitChars_cons]
    have := ih (10 * n + (c.toNat - '0'.toNat))
    omega

/-- One digit more, if the number still fits. -/
theorem bounded_digit (n digit : Nat) (f : Nat → Outcome Malformed Duration) :
    bounded (n * 10 + digit) >>= f = if 10 * n + digit < 2 ^ 64 then f (10 * n + digit) else report .outOfRange := by
  rw [Nat.mul_comm n 10, bounded]
  split <;> rfl

/-- **A number is read digit by digit** and is out of range as soon as it does not fit. -/
theorem readFrom_number (d : Duration) {ws : List Char} (h : ∀ c ∈ ws, isNumberChar c = true) :
    ∀ offset n, n < 2 ^ 64 → ∃ offset', ∀ t, readFrom (.whole n) offset d (ws ++ t) =
      if Nat.ofDigitChars 10 (ws.filter Char.isDigit) n < 2 ^ 64 then
        readFrom (.whole (Nat.ofDigitChars 10 (ws.filter Char.isDigit) n)) offset' d t
      else report .outOfRange := by
  induction ws with
  | nil =>
    intro offset n hn
    exact ⟨offset, fun t => (if_pos hn).symm⟩
  | cons c r ih =>
    intro offset n hn
    have hr : ∀ x ∈ r, isNumberChar x = true := fun x hx => h x (by simp [hx])
    by_cases hc : c.isDigit = true
    · rw [List.filter_cons_of_pos hc, Nat.ofDigitChars_cons]
      by_cases hm : 10 * n + (c.toNat - '0'.toNat) < 2 ^ 64
      · obtain ⟨offset', he⟩ := ih hr (offset + c.utf8Size) _ hm
        refine ⟨offset', fun t => ?_⟩
        rw [List.cons_append, readFrom]
        simp only [hc, if_true]
        rw [bounded_digit, if_pos hm, he t]
      · refine ⟨offset, fun t => ?_⟩
        have hle := le_ofDigitChars (r.filter Char.isDigit) (10 * n + (c.toNat - '0'.toNat))
        rw [List.cons_append, readFrom]
        simp only [hc, if_true]
        rw [bounded_digit, if_neg hm, if_neg (by omega)]
    · have hb : isBlank c = true := by
        have := h c (by simp)
        rwa [isNumberChar, Bool.eq_false_iff.2 hc, Bool.false_or] at this
      rw [List.filter_cons_of_neg hc]
      obtain ⟨offset', he⟩ := ih hr (offset + c.utf8Size) n hn
      refine ⟨offset', fun t => ?_⟩
      rw [List.cons_append, readFrom]
      simp only [hc, hb, if_true]
      exact he t

/-- The fraction behind more digits. -/
def Fraction.extend (p : Fraction) (ds : List Char) : Fraction :=
  ⟨Nat.ofDigitChars 10 ds p.numerator, p.denominator * 10 ^ ds.length⟩

/-- Numerator and denominator fit 64 bits. -/
def Fraction.Fits (p : Fraction) : Prop :=
  p.numerator < 2 ^ 64 ∧ p.denominator < 2 ^ 64

instance (p : Fraction) : Decidable p.Fits :=
  inferInstanceAs (Decidable (_ ∧ _))

theorem Fraction.fits_of_extend {p : Fraction} {ds : List Char} (h : (p.extend ds).Fits) : p.Fits := by
  have h1 := le_ofDigitChars ds p.numerator
  have h2 : p.denominator * 1 ≤ p.denominator * 10 ^ ds.length :=
    Nat.mul_le_mul_left _ (Nat.one_le_pow _ _ (by decide))
  obtain ⟨hn, hd⟩ := h
  simp only [Fraction.extend] at hn hd
  exact ⟨by omega, by omega⟩

theorem Fraction.extend_cons (p : Fraction) (c : Char) (ds : List Char) :
    p.extend (c :: ds) = Fraction.extend ⟨10 * p.numerator + (c.toNat - '0'.toNat), p.denominator * 10⟩ ds := by
  rw [Fraction.extend, Nat.ofDigitChars_cons, Fraction.extend, List.length_cons, Nat.pow_succ', Nat.mul_assoc]

/-- **A fraction is read digit by digit** and is out of range as soon as one of its numbers does not fit. -/
theorem readFrom_fraction (d : Duration) (count : Nat) {fs : List Char} (h : ∀ c ∈ fs, isNumberChar c = true) :
    ∀ offset mark (p : Fraction), p.Fits → ∃ offset' mark', ∀ t,
      readFrom (.fraction count p mark) offset d (fs ++ t) =
        if (p.extend (fs.filter Char.isDigit)).Fits then
          readFrom (.fraction count (p.extend (fs.filter Char.isDigit)) mark') offset' d t
        else report .outOfRange := by
  induction fs with
  | nil =>
    intro offset mark p hp
    have he : p.extend [] = p := by simp [Fraction.extend]
    exact ⟨offset, mark, fun t => by rw [List.filter_nil, he, if_pos hp]; rfl⟩
  | cons c r ih =>
    intro offset mark p hp
    have hr : ∀ x ∈ r, isNumberChar x = true := fun x hx => h x (by simp [hx])
    by_cases hc : c.isDigit = true
    · rw [List.filter_cons_of_pos hc, Fraction.extend_cons]
      by_cases hm : Fraction.Fits ⟨10 * p.numerator + (c.toNat - '0'.toNat), p.denominator * 10⟩
      · obtain ⟨offset', mark', he⟩ := ih hr (offset + c.utf8Size) (offset + c.utf8Size) _ hm
        refine ⟨offset', mark', fun t => ?_⟩
        rw [List.cons_append, readFrom]
        simp only [hc, if_true]
        rw [bounded_digit, if_pos hm.1, bounded, if_pos hm.2]
        exact he t
      · refine ⟨offset, mark, fun t => ?_⟩
        rw [List.cons_append, readFrom, if_neg fun hf => hm (Fraction.fits_of_extend hf)]
        simp only [hc, if_true]
        rw [bounded_digit]
        split
        · rw [bounded, if_neg fun hd => hm ⟨‹_›, hd⟩]
          rfl
        · rfl
    · have hb : isBlank c = true := by
        have := h c (by simp)
        rwa [isNumberChar, Bool.eq_false_iff.2 hc, Bool.false_or] at this
      rw [List.filter_cons_of_neg hc]
      obtain ⟨offset', mark', he⟩ := ih hr (offset + c.utf8Size) (offset + c.utf8Size) p hp
      refine ⟨offset', mark', fun t => ?_⟩
      rw [List.cons_append, readFrom]
      simp only [hc, hb, if_true]
      exact he t

theorem readFrom_letters (d : Duration) (count : Nat) (part : Option Fraction) {name : List Char}
    (h : ∀ c ∈ name, isUnitLetter c = true) :
    ∀ offset letters, ∃ offset', ∀ t, readFrom (.unit count part letters) offset d (name ++ t) =
      readFrom (.unit count part (name.reverse ++ letters)) offset' d t := by
  induction name with
  | nil => exact fun offset letters => ⟨offset, fun _ => rfl⟩
  | cons c r ih =>
    intro offset letters
    obtain ⟨offset', he⟩ := ih (fun x hx => h x (by simp [hx])) (offset + c.utf8Size) (c :: letters)
    refine ⟨offset', fun t => ?_⟩
    rw [List.cons_append, readFrom]
    simp only [h c (by simp), if_true]
    rw [he t, List.reverse_cons, List.append_assoc]
    rfl

/-- Behind a unit the span is closed, and the reader stands before the next one. -/
theorem readFrom_unit_end {d : Duration} {count offset : Nat} {part : Option Fraction} {letters r : List Char}
    (h : FollowsUnit r) : readFrom (.unit count part letters) offset d r =
      closeSpan d count part letters >>= fun e => readFrom (.gap true) offset e r := by
  cases r with
  | nil =>
    simp only [readFrom, if_true]
    cases closeSpan d count part letters <;> rfl
  | cons c r =>
    have hc := h c rfl
    simp only [readFrom]
    have hl : isUnitLetter c = false := (isNumberChar_spec (by rw [isNumberChar, Bool.or_eq_true]; exact hc.symm)).1
    rcases hc with hb | hd
    · simp only [hl, hb, if_true]
      rfl
    · simp only [hl, not_isBlank_of_isDigit hd, hd, if_true]
      rfl

/-- The name of a unit closes its span, from its second letter on. -/
theorem readFrom_name (d : Duration) (count : Nat) (part : Option Fraction) {l : Char} {name : List Char}
    {u : TimeUnit} (h : TimeUnit.named? (l :: name) = some u) (offset : Nat) :
    ∃ offset', ∀ r, FollowsUnit r → readFrom (.unit count part [l]) offset d (name ++ r) =
      sum d (Span.amounts ⟨count, part, u⟩) >>= fun e => readFrom (.gap true) offset' e r := by
  have hl := (isUnitLetter_of_named h).2
  obtain ⟨offset', he⟩ := readFrom_letters d count part
    (fun c hc => hl c (List.mem_cons_of_mem l hc)) offset [l]
  refine ⟨offset', fun r hr => ?_⟩
  rw [he, readFrom_unit_end hr, closeSpan]
  simp only [List.reverse_append, List.reverse_reverse, List.reverse_singleton, List.singleton_append, h]
  rw [← addSpan_eq]

/-- The first digit of a number starts its span. -/
theorem readFrom_first_digit {started : Bool} {offset : Nat} {d : Duration} {c : Char} (h : c.isDigit = true)
    (t : List Char) : readFrom (.gap started) offset d (c :: t) =
      readFrom (.whole (c.toNat - '0'.toNat)) (offset + c.utf8Size) d t := by
  simp only [readFrom, not_isBlank_of_isDigit h, h, if_true]
  rfl

/-- The point behind a number starts a fraction. -/
theorem readFrom_point {count offset : Nat} {d : Duration} (t : List Char) :
    readFrom (.whole count) offset d ('.' :: t) =
      readFrom (.fraction count ⟨0, 1⟩ offset) (offset + '.'.utf8Size) d t := by
  have h : '.'.isDigit = false ∧ isBlank '.' = false ∧ isUnitLetter '.' = false := by decide
  simp only [readFrom, h, if_true]
  rfl

/-- A letter behind a number starts its unit. -/
theorem readFrom_whole_letter {count offset : Nat} {d : Duration} {l : Char} (h : isUnitLetter l = true)
    (t : List Char) : readFrom (.whole count) offset d (l :: t) =
      readFrom (.unit count none [l]) (offset + l.utf8Size) d t := by
  simp only [readFrom, isUnitLetter_spec h, h, if_true]
  rfl

/-- So does one behind a fraction, if that has a digit. -/
theorem readFrom_fraction_letter {count offset mark : Nat} {d : Duration} {p : Fraction} {l : Char}
    (h : isUnitLetter l = true) (hp : p.denominator ≠ 1) (t : List Char) :
    readFrom (.fraction count p mark) offset d (l :: t) =
      readFrom (.unit count (some p) [l]) (offset + l.utf8Size) d t := by
  simp only [readFrom, isUnitLetter_spec h, Bool.false_eq_true, if_false]
  exact if_pos ⟨h, hp⟩

/-- The digits of a number, with its first one apart. -/
theorem digitsValue_cons {c : Char} (h : c.isDigit = true) (ws : List Char) :
    digitsValue (c :: ws) = Nat.ofDigitChars 10 (ws.filter Char.isDigit) (c.toNat - '0'.toNat) := by
  rw [digitsValue, List.filter_cons_of_pos h, Nat.ofDigitChars_cons, Nat.mul_zero, Nat.zero_add]

theorem first_digit_lt {c : Char} (h : c.isDigit = true) : c.toNat - '0'.toNat < 2 ^ 64 := by
  have := (isDigit_iff.1 h).2
  omega

theorem extend_zero_one (fs : List Char) :
    Fraction.extend ⟨0, 1⟩ (fs.filter Char.isDigit) = digitsFraction fs := by
  rw [Fraction.extend, digitsFraction, digitsValue, Nat.one_mul]

theorem denominator_ne_one {fs : List Char} (h : fs.filter Char.isDigit ≠ []) :
    (digitsFraction fs).denominator ≠ 1 := by
  have hlen : 0 < (fs.filter Char.isDigit).length := List.length_pos_iff.2 h
  have := Nat.one_lt_pow (by omega : (fs.filter Char.isDigit).length ≠ 0) (by decide : 1 < 10)
  simp only [digitsFraction]
  omega

/-- **A span is read** as its amounts, if its numbers fit 64 bits, and is out of range if they do not. -/
theorem readFrom_span {t : List Char} {s : Span} (h : WritesSpan t s) (started : Bool) (offset : Nat) (d : Duration) :
    ∃ offset', ∀ r, FollowsUnit r → readFrom (.gap started) offset d (t ++ r) =
      if s.Fits then sum d s.amounts >>= fun e => readFrom (.gap true) offset' e r else report .outOfRange := by
  cases h with
  | @whole c ws name u digit number named =>
    obtain ⟨offset₁, hn⟩ := readFrom_number d number (offset + c.utf8Size) _ (first_digit_lt digit)
    rw [← digitsValue_cons digit] at hn
    obtain ⟨hne, hl⟩ := isUnitLetter_of_named named
    obtain ⟨l, name, rfl⟩ := List.exists_cons_of_ne_nil hne
    obtain ⟨offset₂, hu⟩ := readFrom_name d (digitsValue (c :: ws)) none named
      (offset₁ + l.utf8Size)
    refine ⟨offset₂, fun r hr => ?_⟩
    have hf : Span.Fits ⟨digitsValue (c :: ws), none, u⟩ ↔ digitsValue (c :: ws) < 2 ^ 64 := by
      simp [Span.Fits]
    rw [List.cons_append, List.append_assoc, readFrom_first_digit digit, hn]
    by_cases hfit : digitsValue (c :: ws) < 2 ^ 64
    · rw [if_pos hfit, if_pos (hf.2 hfit), ← hu r hr, List.cons_append, readFrom_whole_letter (hl l (by simp))]
    · rw [if_neg hfit, if_neg fun h => hfit (hf.1 h)]
  | @divided c ws fs name u digit number fraction some_digit named =>
    obtain ⟨offset₁, hn⟩ := readFrom_number d number (offset + c.utf8Size) _ (first_digit_lt digit)
    rw [← digitsValue_cons digit] at hn
    obtain ⟨offset₂, mark, hp⟩ := readFrom_fraction d (digitsValue (c :: ws)) fraction
      (offset₁ + '.'.utf8Size) offset₁ ⟨0, 1⟩ ⟨by decide, by decide⟩
    rw [extend_zero_one] at hp
    obtain ⟨hne, hl⟩ := isUnitLetter_of_named named
    obtain ⟨l, name, rfl⟩ := List.exists_cons_of_ne_nil hne
    obtain ⟨offset₃, hu⟩ := readFrom_name d (digitsValue (c :: ws)) (some (digitsFraction fs)) named
      (offset₂ + l.utf8Size)
    refine ⟨offset₃, fun r hr => ?_⟩
    have hf : Span.Fits ⟨digitsValue (c :: ws), some (digitsFraction fs), u⟩ ↔
        digitsValue (c :: ws) < 2 ^ 64 ∧ (digitsFraction fs).Fits := by
      simp [Span.Fits, Fraction.Fits]
    rw [List.cons_append, List.append_assoc, List.cons_append, List.append_assoc, readFrom_first_digit digit, hn]
    by_cases hfit : digitsValue (c :: ws) < 2 ^ 64
    · rw [if_pos hfit, readFrom_point, hp]
      by_cases hfrac : (digitsFraction fs).Fits
      · rw [if_pos hfrac, if_pos (hf.2 ⟨hfit, hfrac⟩), ← hu r hr, List.cons_append,
          readFrom_fraction_letter (hl l (by simp)) (denominator_ne_one some_digit)]
      · rw [if_neg hfrac, if_neg fun h => hfrac (hf.1 h).2]
    · rw [if_neg hfit, if_neg fun h => hfit (hf.1 h).1]

/-! ## Whole literals -/

/-- The duration lengthened by the spans of a literal. -/
def addUp (d : Duration) : List Span → Outcome Malformed Duration
  | [] => .ok d
  | s :: ss => if s.Fits then sum d s.amounts >>= fun e => addUp e ss else report .outOfRange

theorem addUp_append (ss ts : List Span) :
    ∀ d, addUp d (ss ++ ts) = addUp d ss >>= fun e => addUp e ts := by
  induction ss with
  | nil => exact fun d => rfl
  | cons s ss ih =>
    intro d
    rw [List.cons_append, addUp, addUp]
    split
    · rw [bind_assoc]
      simp only [ih]
    · rfl

/-- Spans can follow a unit, since they start with a digit or a blank. -/
theorem Writes.followsUnit {t : List Char} {ss : List Span} (h : Writes t ss) : FollowsUnit t := by
  intro x hx
  cases h with
  | nil blank => exact .inl (blank x (List.mem_of_mem_head? hx))
  | @cons bs t r s ss blank head tail =>
    obtain ⟨c, w, rfl, hc⟩ := head.exists_digit
    cases bs with
    | nil =>
      cases hx
      exact .inr hc
    | cons b bs =>
      cases hx
      exact .inl (blank x (by simp))

theorem FollowsUnit.append {t r : List Char} (ht : FollowsUnit t) (hr : FollowsUnit r) : FollowsUnit (t ++ r) := by
  cases t with
  | nil => exact hr
  | cons c t => exact ht

theorem followsUnit_nil : FollowsUnit [] := fun _ h => nomatch h

/-- **The spans in front of a text are read** as their amounts, one span after another. -/
theorem readFrom_writes_append {t : List Char} {ss : List Span} (h : Writes t ss) :
    ∀ started offset d, ∃ offset', ∀ r, FollowsUnit r → readFrom (.gap started) offset d (t ++ r) =
      addUp d ss >>= fun e => readFrom (.gap (started || ss ≠ [])) offset' e r := by
  induction h with
  | nil blank =>
    intro started offset d
    obtain ⟨offset', he⟩ := readFrom_blanks started d blank offset
    refine ⟨offset', fun r _ => ?_⟩
    rw [he r]
    simp only [ne_eq, not_true, decide_false, Bool.or_false, addUp]
    rfl
  | @cons bs t r' s ss blank head tail ih =>
    intro started offset d
    obtain ⟨offset₁, hb⟩ := readFrom_blanks started d blank offset
    obtain ⟨offset₂, hs⟩ := readFrom_span head started offset₁ d
    -- the offset behind the spans depends on what the first one leads to
    by_cases hsum : ∃ e, sum d s.amounts = .ok e
    · obtain ⟨e, hsum⟩ := hsum
      obtain ⟨offset₃, ht⟩ := ih true offset₂ e
      refine ⟨offset₃, fun r hr => ?_⟩
      rw [List.append_assoc, List.append_assoc, hb, hs (r' ++ r) (tail.followsUnit.append hr), addUp, hsum]
      split
      · have := ht r hr
        simp only [Bool.true_or] at this
        simp only [ne_eq, List.cons_ne_nil, not_false_eq_true, decide_true, Bool.or_true]
        exact this
      · rfl
    · refine ⟨offset₂, fun r hr => ?_⟩
      rw [List.append_assoc, List.append_assoc, hb, hs (r' ++ r) (tail.followsUnit.append hr), addUp]
      cases he : sum d s.amounts with
      | ok e => exact absurd ⟨e, he⟩ hsum
      | error stop => split <;> rfl

/-- **A literal is read** as its spans added up. -/
theorem readFrom_writes {t : List Char} {ss : List Span} (h : Writes t ss) (hne : ss ≠ [])
    (started : Bool) (offset : Nat) (d : Duration) : readFrom (.gap started) offset d t = addUp d ss := by
  obtain ⟨offset', he⟩ := readFrom_writes_append h started offset d
  have := he [] followsUnit_nil
  rw [List.append_nil] at this
  rw [this]
  simp only [hne, ne_eq, not_false_eq_true, decide_true, Bool.or_true, readFrom, if_true]
  cases addUp d ss <;> rfl

end AuthProxy.Duration
