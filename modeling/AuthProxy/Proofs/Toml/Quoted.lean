import AuthProxy.Toml.Quoted

/-!
# Strings read back

A written string is read as the text that it writes, whatever notation it is in and whatever follows it, as long as that is no
quote (`readString?_writeString`). Between `"` a character is written by itself or as an escape, and the reader stands in
front of the next one either way (`read_writeEscaped`); between three quotes it may have seen some quotes before,
which `stageOf` says.
-/

namespace AuthProxy.Toml

open Number

@[simp] theorem emit_nil (x : Option (List Char × List Char)) : emit [] x = x := by
  cases x <;> rfl

theorem emit_emit (s t : List Char) (x : Option (List Char × List Char)) : emit s (emit t x) = emit (s ++ t) x := by
  cases x with
  | none => rfl
  | some p => simp [emit, List.append_assoc]

@[simp] theorem emit_some (s t r : List Char) : emit s (some (t, r)) = some (s ++ t, r) := rfl

/-! ## Escapes -/

/-- What the two readers of strings between `"` have in common: they take one character at a time and stand at the stage that
    it leads to. -/
structure Steps (multi : Bool) (read : Stage → List Char → Option (List Char × List Char)) : Prop where
  plain {c : Char} (r : List Char) : c ≠ '"' → c ≠ '\n' →
    read .plain (c :: r) = emit (plainStep '"' c).1 (read (plainStep '"' c).2 r)
  escape (c : Char) (r : List Char) :
    read .escape (c :: r) = (escapeStep multi c).bind fun (s, stage) => emit s (read stage r)
  code (left value : Nat) (c : Char) (r : List Char) :
    read (.code left value) (c :: r) = (codeStep left value c).bind fun (s, stage) => emit s (read stage r)

theorem steps_lineString : Steps false (readLineString '"') where
  plain r hq hn := by
    rw [readLineString, if_neg hq, if_neg hn]
  escape c r := by
    rw [readLineString]
  code left value c r := by
    rw [readLineString]

theorem steps_linesString : Steps true (readLinesString '"') where
  plain r _ _ := by
    rw [readLinesString]
  escape c r := by
    rw [readLinesString]
  code left value c r := by
    rw [readLinesString]

section Steps

variable {multi : Bool} {read : Stage → List Char → Option (List Char × List Char)} (h : Steps multi read)

include h

/-- A character that stands for itself. -/
theorem read_self {c : Char} (hq : c ≠ '"') (hn : c ≠ '\n') (hb : c ≠ '\\') (r : List Char) :
    read .plain (c :: r) = emit [c] (read .plain r) := by
  have hstep : plainStep '"' c = ([c], .plain) := by
    rw [plainStep, if_neg hq, if_neg fun e => hb e.1]
  rw [h.plain r hq hn, hstep]

theorem read_backslash (r : List Char) : read .plain ('\\' :: r) = read .escape r := by
  rw [h.plain r (by decide) (by decide)]
  exact emit_nil _

/-- A letter behind a backslash. -/
theorem read_letter {l d : Char} (hl : escaped? l = some d) (r : List Char) :
    read .plain ('\\' :: l :: r) = emit [d] (read .plain r) := by
  have hstep : escapeStep multi l = some ([d], .plain) := by
    rw [escapeStep, hl]
  rw [read_backslash h, h.escape, hstep]
  rfl

/-- A code point in four digits. -/
theorem read_codeDigits {n : Nat} (hn : n < 0xD800) (r : List Char) :
    read .plain ('\\' :: 'u' :: (codeDigits n ++ r)) = emit [Char.ofNat n] (read .plain r) := by
  have hu : escapeStep multi 'u' = some ([], .code 4 0) := rfl
  have hdigit : ∀ left value d : Nat, 1 < left → d < 16 → codeStep left value (Nat.digitChar d).toUpper =
      some ([], .code (left - 1) (value * 16 + d)) := by
    intro left value d hleft hd
    simp only [codeStep, hexDigit?_digitChar hd, Option.bind_eq_bind, Option.bind_some]
    rw [if_neg (by omega)]
  have hvalue : (((0 * 16 + n / 4096 % 16) * 16 + n / 256 % 16) * 16 + n / 16 % 16) * 16 + n % 16 = n := by
    omega
  have hlast : codeStep 1 (((0 * 16 + n / 4096 % 16) * 16 + n / 256 % 16) * 16 + n / 16 % 16)
      (Nat.digitChar (n % 16)).toUpper = some ([Char.ofNat n], .plain) := by
    have hvalid : n.isValidChar := .inl hn
    simp only [codeStep, hexDigit?_digitChar (Nat.mod_lt n (by decide : 16 > 0)), Option.bind_eq_bind, Option.bind_some,
      hvalue, scalar?, if_pos hvalid]
    rfl
  have hlt : ∀ m : Nat, m % 16 < 16 := fun m => Nat.mod_lt m (by decide)
  rw [read_backslash h, h.escape, hu]
  simp only [Option.bind_some, emit_nil, codeDigits, List.map_cons, List.map_nil, List.cons_append, List.nil_append]
  rw [h.code, hdigit 4 0 _ (by decide) (hlt _)]
  simp only [Option.bind_some, emit_nil]
  rw [h.code, hdigit 3 _ _ (by decide) (hlt _)]
  simp only [Option.bind_some, emit_nil]
  rw [h.code, hdigit 2 _ _ (by decide) (hlt _)]
  simp only [Option.bind_some, emit_nil]
  rw [h.code, hlast]
  rfl

/-- **An escaped character is read back.** -/
theorem read_writeEscaped {c : Char} (hq : c ≠ '"') (hn : c ≠ '\n') (r : List Char) :
    read .plain (writeEscaped c ++ r) = emit [c] (read .plain r) := by
  unfold writeEscaped
  split
  next hc => subst hc; exact read_letter h rfl r
  next hb =>
    split
    next hc => subst hc; exact read_letter h rfl r
    split
    next hc => subst hc; exact read_letter h rfl r
    split
    next hc => subst hc; exact read_letter h rfl r
    split
    next hc => subst hc; exact read_letter h rfl r
    split
    next hcode =>
      have hlt : c.toNat < 0xD800 := by
        simp only [needsCode, Bool.or_eq_true, Bool.and_eq_true, decide_eq_true_eq] at hcode
        omega
      have := read_codeDigits h hlt r
      rwa [Char.ofNat_toNat] at this
    next => exact read_self h hq hn hb r

end Steps

/-- What a character other than a quote is written as does not start with a quote. -/
theorem writeEscaped_head {c : Char} (hq : c ≠ '"') : ∃ d t, writeEscaped c = d :: t ∧ d ≠ '"' := by
  unfold writeEscaped
  repeat' split
  all_goals first
    | exact ⟨_, _, rfl, by decide⟩
    | exact ⟨_, _, rfl, hq⟩

/-! ## One line -/

theorem readLineString_writeLine (s r : List Char) :
    readLineString '"' .plain (writeLine s ++ '"' :: r) = some (s, r) := by
  induction s with
  | nil => rw [writeLine, List.nil_append, readLineString, if_pos rfl]
  | cons c s ih =>
    rw [writeLine, List.append_assoc]
    split
    next hq =>
      subst hq
      rw [List.cons_append, List.singleton_append, read_letter steps_lineString rfl, ih]
      rfl
    next hq =>
      split
      next hn =>
        subst hn
        rw [List.cons_append, List.singleton_append, read_letter steps_lineString rfl, ih]
        rfl
      next hn => rw [read_writeEscaped steps_lineString hq hn, ih]; rfl

/-- Between `'` every character stands for itself. -/
theorem readLineString_literal {s : List Char} (hq : '\'' ∉ s) (hn : '\n' ∉ s) (r : List Char) :
    readLineString '\'' .plain (s ++ '\'' :: r) = some (s, r) := by
  induction s with
  | nil => rw [List.nil_append, readLineString, if_pos rfl]
  | cons c s ih =>
    rw [List.mem_cons, not_or] at hq hn
    have hstep : plainStep '\'' c = ([c], .plain) := by
      rw [plainStep, if_neg (Ne.symm hq.1), if_neg fun e => absurd e.2 (by decide)]
    rw [List.cons_append, readLineString, if_neg (Ne.symm hq.1), if_neg (Ne.symm hn.1), hstep]
    dsimp only
    rw [ih hq.2 hn.2]
    rfl

/-! ## Several lines -/

/-- The stage behind so many quotes that do not close the string yet. -/
def stageOf (run : Nat) : Stage :=
  if run = 0 then .plain else .quotes run

/-- A text that does not start with a quote of either kind. -/
def Unquoted (r : List Char) : Prop :=
  ∀ c, r.head? = some c → c ≠ '"' ∧ c ≠ '\''

theorem Unquoted.ne_quote {r t : List Char} (h : Unquoted r) : r ≠ '"' :: t :=
  fun e => (h '"' (by rw [e]; rfl)).1 rfl

theorem Unquoted.ne_apostrophe {r t : List Char} (h : Unquoted r) : r ≠ '\'' :: t :=
  fun e => (h '\'' (by rw [e]; rfl)).2 rfl

/-- Quotes that are followed by another character belong to the string. -/
theorem readLinesString_flush {quote : Char} {run : Nat} (hrun : run ≤ 2) {c : Char} (hc : c ≠ quote) (t : List Char) :
    readLinesString quote (stageOf run) (c :: t) =
      emit (List.replicate run quote) (readLinesString quote .plain (c :: t)) := by
  by_cases h : run = 0
  · subst h
    rw [stageOf, if_pos rfl, List.replicate_zero, emit_nil]
  · have hplain : readLinesString quote .plain (c :: t) =
        emit (plainStep quote c).1 (readLinesString quote (plainStep quote c).2 t) := by
      rw [readLinesString]
    rw [hplain, emit_emit, stageOf, if_neg h, readLinesString, if_neg fun e => hc e.1, if_neg (by omega)]

/-- One quote more. -/
theorem readLinesString_quote {quote : Char} {run : Nat} (hrun : run < 5) (t : List Char) :
    readLinesString quote (stageOf run) (quote :: t) = readLinesString quote (stageOf (run + 1)) t := by
  have hnext : stageOf (run + 1) = .quotes (run + 1) := if_neg (Nat.succ_ne_zero run)
  by_cases h : run = 0
  · subst h
    rw [hnext, stageOf, if_pos rfl, readLinesString, plainStep, if_pos rfl]
    exact emit_nil _
  · rw [hnext, stageOf, if_neg h, readLinesString, if_pos ⟨rfl, hrun⟩]

/-- Three quotes close the string, and quotes in front of them belong to it. -/
theorem readLinesString_close {quote : Char} {run : Nat} (hrun : run ≤ 2) {r : List Char}
    (hr : ∀ c, r.head? = some c → c ≠ quote) :
    readLinesString quote (stageOf run) (quote :: quote :: quote :: r) = some (List.replicate run quote, r) := by
  have hstage : stageOf (run + 1 + 1 + 1) = .quotes (run + 3) := if_neg (Nat.succ_ne_zero _)
  rw [readLinesString_quote (by omega), readLinesString_quote (by omega), readLinesString_quote (by omega), hstage]
  cases r with
  | nil => rw [readLinesString, if_pos (by omega), Nat.add_sub_cancel]
  | cons c r =>
    rw [readLinesString, if_neg fun e => hr c rfl e.1, if_pos (by omega), Nat.add_sub_cancel]

theorem readLinesString_writeLines {r : List Char} (hr : Unquoted r) (s : List Char) : ∀ {run : Nat}, run ≤ 2 →
    readLinesString '"' (stageOf run) (writeLines run s ++ '"' :: '"' :: '"' :: r) =
      some (List.replicate run '"' ++ s, r) := by
  have hzero : stageOf 0 = .plain := rfl
  induction s with
  | nil =>
    intro run hrun
    rw [writeLines, List.nil_append, readLinesString_close hrun fun c hc => (hr c hc).1, List.append_nil]
  | cons c s ih =>
    intro run hrun
    rw [writeLines]
    split
    next hq =>
      subst hq
      split
      next htwo =>
        subst htwo
        rw [List.cons_append, List.cons_append, readLinesString_flush (by decide) (by decide),
          read_letter steps_linesString rfl, ← hzero, ih (by decide)]
        rfl
      next htwo =>
        rw [List.cons_append, readLinesString_quote (by omega), ih (by omega), List.replicate_succ']
        simp
    next hq =>
      split
      next hn =>
        subst hn
        rw [List.cons_append, readLinesString_flush hrun (by decide), readLinesString]
        dsimp only [plainStep]
        rw [← hzero]
        simp [ih (by decide : 0 ≤ 2)]
      next hn =>
        obtain ⟨d, t, hd, hne⟩ := writeEscaped_head hq
        have hflush : readLinesString '"' (stageOf run) (writeEscaped c ++ (writeLines 0 s ++ '"' :: '"' :: '"' :: r)) =
            emit (List.replicate run '"')
              (readLinesString '"' .plain (writeEscaped c ++ (writeLines 0 s ++ '"' :: '"' :: '"' :: r))) := by
          rw [hd, List.cons_append, readLinesString_flush hrun hne]
        rw [List.append_assoc, hflush, read_writeEscaped steps_linesString hq hn, ← hzero, ih (by decide)]
        simp

/-- The longest run is at least the one so far. -/
theorem le_longestRun_go (quote : Char) (s : List Char) : ∀ best run, best ≤ longestRun.go quote best run s := by
  induction s with
  | nil => exact fun best run => Nat.le_refl best
  | cons c s ih =>
    intro best run
    rw [longestRun.go]
    split
    · exact Nat.le_trans (Nat.le_max_left _ _) (ih _ _)
    · exact ih _ _

/-- Between three `'` every character stands for itself, where no three of them are in a row. -/
theorem readLinesString_literal {r : List Char} (hr : Unquoted r) (s : List Char) :
    ∀ {best run : Nat}, longestRun.go '\'' best run s ≤ 2 → run ≤ 2 →
      readLinesString '\'' (stageOf run) (s ++ '\'' :: '\'' :: '\'' :: r) = some (List.replicate run '\'' ++ s, r) := by
  have hzero : stageOf 0 = .plain := rfl
  induction s with
  | nil =>
    intro best run _ hrun
    rw [List.nil_append, readLinesString_close hrun fun c hc => (hr c hc).2, List.append_nil]
  | cons c s ih =>
    intro best run hlong hrun
    rw [longestRun.go] at hlong
    split at hlong
    next hq =>
      subst hq
      have hle : run + 1 ≤ 2 :=
        Nat.le_trans (Nat.le_max_right _ _) (Nat.le_trans (le_longestRun_go '\'' s _ (run + 1)) hlong)
      rw [List.cons_append, readLinesString_quote (by omega), ih hlong hle, List.replicate_succ']
      simp
    next hq =>
      have hstep : plainStep '\'' c = ([c], .plain) := by
        rw [plainStep, if_neg hq, if_neg fun e => absurd e.2 (by decide)]
      rw [List.cons_append, readLinesString_flush hrun hq, readLinesString, hstep]
      dsimp only
      rw [← hzero, ih hlong (by decide)]
      simp

/-! ## Characters of a document -/

/-- A text with no control characters but tabs and line feeds. -/
def Printable (s : List Char) : Prop :=
  ∀ c ∈ s, needsCode c = false

theorem Printable.append {s t : List Char} (hs : Printable s) (ht : Printable t) : Printable (s ++ t) :=
  List.forall_mem_append.2 ⟨hs, ht⟩

theorem Printable.cons {c : Char} {s : List Char} (hc : needsCode c = false) (hs : Printable s) : Printable (c :: s) :=
  List.forall_mem_cons.2 ⟨hc, hs⟩

theorem printable_nil : Printable [] :=
  List.forall_mem_nil _

theorem printable_of_all {s : List Char} (h : s.all (! needsCode ·) = true) : Printable s := by
  intro c hc
  simpa using List.all_eq_true.1 h c hc

theorem printable_codeDigits (n : Nat) : Printable (codeDigits n) := by
  have hall : ∀ d < 16, needsCode (Nat.digitChar d).toUpper = false := by
    decide
  intro c hc
  obtain ⟨d, hd, rfl⟩ := List.mem_map.1 hc
  apply hall d
  simp only [List.mem_cons, List.not_mem_nil, or_false] at hd
  omega

/-- Escapes leave no control character. -/
theorem printable_writeEscaped (c : Char) : Printable (writeEscaped c) := by
  unfold writeEscaped
  split
  · exact .cons (by decide) (.cons (by decide) printable_nil)
  split
  · exact .cons (by decide) (.cons (by decide) printable_nil)
  split
  · exact .cons (by decide) (.cons (by decide) printable_nil)
  split
  · exact .cons (by decide) (.cons (by decide) printable_nil)
  split
  · exact .cons (by decide) (.cons (by decide) printable_nil)
  split
  · exact .cons (by decide) (.cons (by decide) (printable_codeDigits c.toNat))
  next hc => exact .cons (Bool.eq_false_iff.2 hc) printable_nil

theorem printable_writeLine (s : List Char) : Printable (writeLine s) := by
  induction s with
  | nil => exact printable_nil
  | cons c s ih =>
    rw [writeLine]
    refine Printable.append ?_ ih
    split
    · exact .cons (by decide) (.cons (by decide) printable_nil)
    split
    · exact .cons (by decide) (.cons (by decide) printable_nil)
    · exact printable_writeEscaped c

theorem printable_writeLines (s : List Char) : ∀ run, Printable (writeLines run s) := by
  induction s with
  | nil => exact fun _ => printable_nil
  | cons c s ih =>
    intro run
    rw [writeLines]
    split
    · split
      · exact .cons (by decide) (.cons (by decide) (ih 0))
      · exact .cons (by decide) (ih (run + 1))
    split
    · exact .cons (by decide) (ih 0)
    · exact (printable_writeEscaped c).append (ih 0)

theorem printable_leadingLineEnd (s : List Char) : Printable (leadingLineEnd s) := by
  unfold leadingLineEnd
  split
  · exact .cons (by decide) printable_nil
  · exact printable_nil

/-! ## Any notation -/

/-- What a style asks of a text: a literal one holds it as it is. -/
def Style.Holds (s : List Char) : Style → Prop
  | basic => True
  | literal => Printable s ∧ '\n' ∉ s ∧ '\'' ∉ s
  | basicLines => True
  | literalLines => Printable s ∧ longestRun '\'' s ≤ 2

/-- The style that is chosen can hold the text. -/
theorem holds_style (s : List Char) : (style s).Holds s := by
  have hprintable : ∀ {b : Bool}, (!(s.any needsCode) && b) = true → Printable s ∧ b = true := by
    intro b h
    rw [Bool.and_eq_true, Bool.not_eq_true', List.any_eq_false] at h
    exact ⟨fun c hc => Bool.eq_false_iff.2 (h.1 c hc), h.2⟩
  unfold style
  simp only [Bool.and_assoc]
  split
  · trivial
  split
  next h =>
    obtain ⟨hp, h⟩ := hprintable h
    simp only [Bool.and_eq_true, Bool.not_eq_true', List.contains_eq_mem, decide_eq_false_iff_not] at h
    exact ⟨hp, h⟩
  split
  · trivial
  split
  next h =>
    obtain ⟨hp, h⟩ := hprintable h
    exact ⟨hp, of_decide_eq_true h⟩
  split <;> trivial

theorem printable_writeIn {s : List Char} : {k : Style} → k.Holds s → Printable (writeIn s k)
  | .basic, _ => .cons (by decide) ((printable_writeLine s).append (.cons (by decide) printable_nil))
  | .literal, h => .cons (by decide) (h.1.append (.cons (by decide) printable_nil))
  | .basicLines, _ => by
    have hquotes : Printable ['"', '"', '"'] := printable_of_all (by decide)
    exact ((hquotes.append (printable_leadingLineEnd s)).append (printable_writeLines s 0)).append hquotes
  | .literalLines, h => by
    have hquotes : Printable ['\'', '\'', '\''] := printable_of_all (by decide)
    exact ((hquotes.append (printable_leadingLineEnd s)).append h.1).append hquotes

theorem readString?_quote {t : List Char} (h : ∀ t', t ≠ '"' :: '"' :: t') :
    readString? ('"' :: t) = readLineString '"' .plain t := by
  unfold readString?
  split
  next r he =>
    cases he
    exact absurd rfl (h r)
  next r he => cases he
  next r he => cases he; rfl
  next r he => cases he
  next hb _ => exact absurd rfl (hb t)

theorem readString?_apostrophe {t : List Char} (h : ∀ t', t ≠ '\'' :: '\'' :: t') :
    readString? ('\'' :: t) = readLineString '\'' .plain t := by
  unfold readString?
  split
  next r he => cases he
  next r he =>
    cases he
    exact absurd rfl (h r)
  next r he => cases he
  next r he => cases he; rfl
  next hb => exact absurd rfl (hb t)

/-- The line end behind the opening quotes is dropped again, and none that the text has. -/
theorem dropLineEnd_leadingLineEnd {s t : List Char} (h : '\n' ∉ s → ∀ c, t.head? = some c → c ≠ '\n' ∧ c ≠ '\r') :
    dropLineEnd (leadingLineEnd s ++ t) = t := by
  unfold leadingLineEnd
  split
  · rfl
  next hs =>
    rw [List.contains_iff_mem] at hs
    rw [List.nil_append]
    unfold dropLineEnd
    split
    · exact absurd rfl (h hs _ rfl).1
    · exact absurd rfl (h hs _ rfl).2
    · rfl

/-- A line of text starts with no quote. -/
theorem writeLine_head {s : List Char} (hs : s ≠ []) : ∃ d t, writeLine s = d :: t ∧ d ≠ '"' := by
  obtain ⟨c, s, rfl⟩ := List.exists_cons_of_ne_nil hs
  rw [writeLine]
  split
  · exact ⟨_, _, rfl, by decide⟩
  next hq =>
    split
    · exact ⟨_, _, rfl, by decide⟩
    · obtain ⟨d, t, hd, hne⟩ := writeEscaped_head hq
      exact ⟨d, t ++ writeLine s, by rw [hd, List.cons_append], hne⟩

/-- Lines of a text without line feeds are without them too. -/
theorem not_mem_writeLines {s : List Char} (hs : '\n' ∉ s) : ∀ run, '\n' ∉ writeLines run s := by
  have hescaped : ∀ c, c ≠ '\n' → '\n' ∉ writeEscaped c := by
    intro c hc h
    have hdigits : ∀ n, '\n' ∉ codeDigits n := by
      intro n hn
      obtain ⟨d, hd, he⟩ := List.mem_map.1 hn
      have hall : ∀ d < 16, (Nat.digitChar d).toUpper ≠ '\n' := by
        decide
      refine hall d ?_ he
      simp only [List.mem_cons, List.not_mem_nil, or_false] at hd
      omega
    unfold writeEscaped at h
    repeat' split at h
    all_goals simp_all [Ne.symm hc]
  induction s with
  | nil => exact fun _ => List.not_mem_nil
  | cons c s ih =>
    intro run
    rw [List.mem_cons, not_or] at hs
    rw [writeLines]
    split
    · split
      · simp [ih hs.2]
      · simp [ih hs.2]
    split
    next hn => exact absurd hn.symm hs.1
    · rw [List.mem_append, not_or]
      exact ⟨hescaped c (Ne.symm hs.1), ih hs.2 0⟩

/-- The first character of a printable text without line feeds starts no line end. -/
theorem head_of_printable {s t : List Char} {q c : Char} (hp : Printable s) (hn : '\n' ∉ s) (hq : q ≠ '\n' ∧ q ≠ '\r')
    (hc : (s ++ q :: t).head? = some c) : c ≠ '\n' ∧ c ≠ '\r' := by
  cases s with
  | nil =>
    cases hc
    exact hq
  | cons d s =>
    cases hc
    refine ⟨fun e => hn (by simp [e]), fun e => ?_⟩
    have := hp c (by simp)
    rw [e] at this
    exact absurd this (by decide)

theorem readString?_writeIn {s r : List Char} (hr : Unquoted r) :
    {k : Style} → k.Holds s → readString? (writeIn s k ++ r) = some (s, r)
  | .basic, _ => by
    rw [writeIn, List.append_assoc, List.cons_append, List.singleton_append, readString?_quote, readLineString_writeLine]
    intro t ht
    by_cases hs : s = []
    · subst hs
      exact hr.ne_quote (List.cons.inj ht).2
    · obtain ⟨d, u, hd, hne⟩ := writeLine_head hs
      rw [hd, List.cons_append] at ht
      exact hne (List.cons.inj ht).1
  | .literal, ⟨_, hn, hq⟩ => by
    rw [writeIn, List.append_assoc, List.cons_append, List.singleton_append, readString?_apostrophe,
      readLineString_literal hq hn]
    intro t ht
    cases s with
    | nil => exact hr.ne_apostrophe (List.cons.inj ht).2
    | cons c s => exact hq (by simp [(List.cons.inj ht).1])
  | .basicLines, _ => by
    have hdrop : dropLineEnd (leadingLineEnd s ++ (writeLines 0 s ++ '"' :: '"' :: '"' :: r)) =
        writeLines 0 s ++ '"' :: '"' :: '"' :: r :=
      dropLineEnd_leadingLineEnd fun hn c hc =>
        head_of_printable (printable_writeLines s 0) (not_mem_writeLines hn 0) (by decide) hc
    have hread := readLinesString_writeLines hr s (by decide : 0 ≤ 2)
    simp only [writeIn, List.append_assoc, List.cons_append, List.nil_append, readString?, hdrop]
    exact hread
  | .literalLines, ⟨hp, hlong⟩ => by
    have hdrop : dropLineEnd (leadingLineEnd s ++ (s ++ '\'' :: '\'' :: '\'' :: r)) = s ++ '\'' :: '\'' :: '\'' :: r :=
      dropLineEnd_leadingLineEnd fun hn c hc => head_of_printable hp hn (by decide) hc
    have hread := readLinesString_literal hr s hlong (by decide : 0 ≤ 2)
    simp only [writeIn, List.append_assoc, List.cons_append, List.nil_append, readString?, hdrop]
    exact hread

/-- **A written string is read back**, whatever follows it but a quote. -/
theorem readString?_writeString (s : List Char) {r : List Char} (hr : Unquoted r) :
    readString? (writeString s ++ r) = some (s, r) :=
  readString?_writeIn hr (holds_style s)

theorem printable_writeString (s : List Char) : Printable (writeString s) :=
  printable_writeIn (holds_style s)

/-- It starts with a quote of one of the kinds. -/
theorem writeString_head (s : List Char) : ∃ t, writeString s = '"' :: t ∨ writeString s = '\'' :: t := by
  unfold writeString
  cases style s with
  | basic => exact ⟨_, .inl rfl⟩
  | literal => exact ⟨_, .inr rfl⟩
  | basicLines => exact ⟨_, .inl rfl⟩
  | literalLines => exact ⟨_, .inr rfl⟩

end AuthProxy.Toml
