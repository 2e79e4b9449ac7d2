import AuthProxy.Log.Install
import AuthProxy.Proofs.FirstStop
import AuthProxy.Proofs.Text.Utf8

/-!
# Cuts within characters

A directive is cut where its parts end, at positions that are counted without the blanks in front of it. Reading it crashes
only where such a position is within a character of the whole text (`Directive.read_ne_crash`). So it takes a directive that
begins with a blank and has a character above ASCII for a level to crash the process (`Filter.exists_piece_of_crash`).
-/

namespace AuthProxy

open Text

/-- An evaluation does not crash, and what it gives has a property. -/
def Outcome.Safe {ε α : Type} (P : α → Prop) : Outcome ε α → Prop
  | .ok a => P a
  | .error (.fault _) => True
  | .error .crash => False

namespace Outcome

variable {ε α β : Type} {P : α → Prop} {Q : β → Prop} {x : Outcome ε α}

theorem Safe.ne_crash (h : x.Safe P) : x ≠ .error .crash := by
  rintro rfl
  exact h

theorem Safe.bind (h : x.Safe P) {f : α → Outcome ε β} (hf : ∀ a, P a → (f a).Safe Q) : (x >>= f).Safe Q := by
  rcases x with (e | _) | a
  · trivial
  · exact h
  · exact hf a h

end Outcome

namespace Log

variable {s text trimmed pre post : List Char} {n start stop position : Nat}

/-! ## Positions between characters -/

/-- A number of bytes after which a character of a text begins or the text ends. -/
def IsBoundary (s : List Char) (n : Nat) : Prop :=
  ∃ pre post, s = pre ++ post ∧ utf8Length pre = n

theorem dropBytes_append (pre post : List Char) : dropBytes (utf8Length pre) (pre ++ post) = .ok post := by
  induction pre with
  | nil => exact dropBytes.eq_1 post
  | cons c pre ih =>
    have hpos := c.utf8Size_pos
    obtain ⟨n, hn⟩ : ∃ n, utf8Length (c :: pre) = n + 1 := by
      rw [utf8Length_cons]
      exact Nat.exists_eq_add_of_le' (by omega)
    rw [hn, List.cons_append, dropBytes, ← hn, utf8Length_cons, if_pos (Nat.le_add_right _ _), Nat.add_sub_cancel_left, ih]
    · omega

theorem takeBytes_append (pre post : List Char) : takeBytes (utf8Length pre) (pre ++ post) = .ok pre := by
  induction pre with
  | nil => exact takeBytes.eq_1 post
  | cons c pre ih =>
    have hpos := c.utf8Size_pos
    obtain ⟨n, hn⟩ : ∃ n, utf8Length (c :: pre) = n + 1 := by
      rw [utf8Length_cons]
      exact Nat.exists_eq_add_of_le' (by omega)
    rw [hn, List.cons_append, takeBytes, ← hn, utf8Length_cons, if_pos (Nat.le_add_right _ _), Nat.add_sub_cancel_left, ih]
    · rfl
    · omega

theorem exists_dropBytes (h : IsBoundary s n) : ∃ t, dropBytes n s = .ok t := by
  obtain ⟨pre, post, rfl, rfl⟩ := h
  exact ⟨post, dropBytes_append pre post⟩

/-- A text is cut between two boundaries. -/
theorem exists_slice (hstart : IsBoundary s start) (hstop : IsBoundary s stop) (hle : start ≤ stop) :
    ∃ t, slice s start stop = .ok t := by
  obtain ⟨pre, post, rfl, rfl⟩ := hstart
  obtain ⟨pre', post', h, rfl⟩ := hstop
  have hdrop := dropBytes_append pre post
  rcases List.append_eq_append_iff.1 h with ⟨part, rfl, rfl⟩ | ⟨part, rfl, rfl⟩
  · refine ⟨part, ?_⟩
    rw [slice, hdrop, utf8Length_append, Nat.add_sub_cancel_left]
    exact takeBytes_append part post'
  · refine ⟨[], ?_⟩
    have hzero : utf8Length pre' - utf8Length (pre' ++ part) = 0 := by
      rw [utf8Length_append]
      omega
    rw [slice, hdrop, hzero]
    exact takeBytes.eq_1 post

/-! ## Directives -/

namespace Directive

/-- The part that is being read begins at a boundary, not behind the position. -/
def Phase.Within (text : List Char) (position : Nat) : Phase → Prop
  | .levelOrTarget first | .span first | .field first | .level first => IsBoundary text first ∧ first ≤ position
  | .start | .fieldEnd | .selected => True

theorem Phase.Within.mono {phase : Phase} {position' : Nat} (h : phase.Within text position) (hle : position ≤ position') :
    phase.Within text position' := by
  cases phase with
  | levelOrTarget | span | field | level => exact ⟨h.1, Nat.le_trans h.2 hle⟩
  | start | fieldEnd | selected => trivial

/-- **One character** at a boundary, up to the next one, crashes nothing. -/
theorem advance_safe {phase : Phase} {c : Char} (d : Directive) (hphase : phase.Within text position)
    (hposition : IsBoundary text position) (hnext : IsBoundary text (position + c.utf8Size)) :
    (advance text d position c phase).Safe fun p => p.1.Within text (position + c.utf8Size) := by
  have hkept := hphase.mono (Nat.le_add_right position c.utf8Size)
  have hsize : "[]=\x7b\x7d".toList.all (·.utf8Size = 1) = true := by
    decide
  -- behind a delimiter a part begins
  have hbegins : ∀ a ∈ "[]=\x7b\x7d".toList, c = a →
      IsBoundary text (position + 1) ∧ position + 1 ≤ position + c.utf8Size := by
    rintro a ha rfl
    have hc : c.utf8Size = 1 := of_decide_eq_true (List.all_eq_true.1 hsize c ha)
    rw [hc] at hnext ⊢
    exact ⟨hnext, Nat.le_refl _⟩
  -- and the part that ends there can be cut off
  have hcut : ∀ start, IsBoundary text start ∧ start ≤ position →
      (slice text start position : Outcome Malformed (List Char)).Safe fun _ => True := by
    rintro start ⟨hstart, hle⟩
    obtain ⟨t, ht⟩ := exists_slice hstart hposition hle
    rw [ht]
    trivial
  have hneed : ∀ o : Option FieldMatch, (need o).Safe fun _ => True := by
    intro o
    cases o <;> trivial
  cases phase with
  | start =>
    rw [advance]
    split
    next h => exact hbegins '[' (by decide) h
    next =>
      split
      · exact ⟨hposition, Nat.le_add_right _ _⟩
      · trivial
  | levelOrTarget start =>
    rw [advance]
    split
    next h => exact (hcut start hphase).bind fun _ _ => hbegins '=' (by decide) h
    next =>
      split
      next h => exact (hcut start hphase).bind fun _ _ => hbegins '[' (by decide) h
      next => exact hkept
  | span start =>
    rw [advance]
    split
    · exact (hcut start hphase).bind fun _ _ => trivial
    · split
      next h => exact (hcut start hphase).bind fun _ _ => hbegins '\x7b' (by decide) h
      next => exact hkept
  | field start =>
    rw [advance]
    split
    · refine (hcut start hphase).bind fun asked _ => ?_
      split
      · trivial
      · exact (hneed _).bind fun _ _ => trivial
    · exact hkept
  | fieldEnd =>
    rw [advance]
    split <;> trivial
  | selected =>
    rw [advance]
    split
    next h => exact hbegins '=' (by decide) h
    next => trivial
  | level start => exact hkept

/-- The end of a text crashes nothing either. -/
theorem finish_safe {phase : Phase} (d : Directive) (hphase : phase.Within text position) :
    (finish text d phase).Safe fun _ => True := by
  have hdrop : ∀ start, IsBoundary text start →
      (dropBytes start text : Outcome Malformed (List Char)).Safe fun _ => True := by
    intro start hstart
    obtain ⟨t, ht⟩ := exists_dropBytes hstart
    rw [ht]
    trivial
  cases phase with
  | levelOrTarget start =>
    refine (hdrop start hphase.1).bind fun part _ => ?_
    split <;> trivial
  | level start =>
    refine (hdrop start hphase.1).bind fun part _ => ?_
    split
    · trivial
    · cases Level.read? part <;> trivial
  | start | span _ | field _ | fieldEnd | selected => trivial

/-- **A run over a text** crashes nothing if its characters end at boundaries of the text that is cut. -/
theorem readFrom_safe (hsub : ∀ n, IsBoundary trimmed n → IsBoundary text n) (rest : List Char) :
    ∀ (read : List Char) (phase : Phase) (d : Directive), trimmed = read ++ rest →
      phase.Within text (utf8Length read) → (readFrom text (utf8Length read) phase d rest).Safe fun _ => True := by
  induction rest with
  | nil => exact fun read phase d _ hphase => finish_safe d hphase
  | cons c rest ih =>
    intro read phase d htrimmed hphase
    have hposition : IsBoundary text (utf8Length read) := hsub _ ⟨read, c :: rest, htrimmed, rfl⟩
    have hlength : utf8Length (read ++ [c]) = utf8Length read + c.utf8Size := by
      rw [utf8Length_append, utf8Length_cons]
      rfl
    have htrimmed' : trimmed = (read ++ [c]) ++ rest := by
      rw [htrimmed, List.append_assoc]
      rfl
    have hnext : IsBoundary text (utf8Length read + c.utf8Size) := hlength ▸ hsub _ ⟨read ++ [c], rest, htrimmed', rfl⟩
    refine (advance_safe d hphase hposition hnext).bind fun p hp => ?_
    rw [← hlength] at hp ⊢
    exact ih (read ++ [c]) p.1 p.2 htrimmed' hp

/-- A directive crashes nothing if its characters, without the blanks around it, end at boundaries of the whole. -/
theorem read_ne_crash (hsub : ∀ n, IsBoundary (trim s) n → IsBoundary s n) : read s ≠ .error .crash :=
  (readFrom_safe hsub (trim s) [] .start {} rfl trivial).ne_crash

/-- So it is if there is no blank in front. -/
theorem read_ne_crash_of_trimStart (h : trimStart s = s) : read s ≠ .error .crash := by
  refine read_ne_crash fun n hn => ?_
  obtain ⟨pre, post, htrim, rfl⟩ := hn
  have hprefix : trim s <+: s := by
    have := (List.dropWhile_suffix isBlank (l := s.reverse)).reverse
    rwa [List.reverse_reverse, ← trimEnd, ← congrArg trimEnd h] at this
  obtain ⟨tail, htail⟩ := hprefix
  exact ⟨pre, post ++ tail, by rw [← List.append_assoc, ← htrim, htail], rfl⟩

/-- And so it is if there are no characters above ASCII. -/
theorem read_ne_crash_of_ascii (h : ∀ c ∈ s, c.toNat < 128) : read s ≠ .error .crash := by
  have hlength : (trim s).length ≤ s.length := by
    have hstart := (List.dropWhile_sublist isBlank (l := s)).length_le
    have hend := (List.dropWhile_sublist isBlank (l := (trimStart s).reverse)).length_le
    rw [trim, trimEnd, List.length_reverse]
    rw [List.length_reverse] at hend
    exact Nat.le_trans hend hstart
  have hmem : ∀ c ∈ trim s, c ∈ s := by
    intro c hc
    rw [trim, trimEnd, List.mem_reverse] at hc
    have := (List.dropWhile_sublist isBlank).mem hc
    exact (List.dropWhile_sublist isBlank).mem (List.mem_reverse.1 this)
  refine read_ne_crash fun n hn => ?_
  obtain ⟨pre, post, htrim, rfl⟩ := hn
  have hpre : utf8Length pre = pre.length := by
    refine utf8Length_ascii fun c hc => h c (hmem c ?_)
    rw [htrim]
    exact List.mem_append_left _ hc
  have hle : pre.length ≤ s.length := by
    rw [htrim, List.length_append] at hlength
    omega
  refine ⟨s.take pre.length, s.drop pre.length, (List.take_append_drop _ s).symm, ?_⟩
  rw [hpre, utf8Length_ascii fun c hc => h c (List.mem_of_mem_take hc), List.length_take, Nat.min_eq_left hle]

end Directive

/-! ## Filters -/

/-- The text of a level crashes the process at a directive that is cut within a character, if none before it is malformed. -/
theorem Filter.ofText_eq_crash_iff {level : String} : ofText level = .error .crash ↔
    ∃ p, StopsAt Directive.read ((splitAt ',' (lowerCase (trim level.toList))).filter (· ≠ [])) p .crash := by
  rw [← mapM_eq_error_iff, ofText, read]
  rcases List.mapM Directive.read _ with (e | _) | ds
  · exact ⟨fun h => (nomatch h), fun h => (nomatch h)⟩
  · exact ⟨fun _ => rfl, fun _ => rfl⟩
  · exact ⟨fun h => (nomatch h), fun h => (nomatch h)⟩

/-- **A level that crashes the process** has a directive which begins with a blank and holds a character above ASCII. -/
theorem Filter.exists_piece_of_crash {level : String} (h : ofText level = .error .crash) :
    ∃ p ∈ splitAt ',' (lowerCase (trim level.toList)), trimStart p ≠ p ∧ ∃ c ∈ p, 128 ≤ c.toNat := by
  obtain ⟨p, hp⟩ := ofText_eq_crash_iff.1 h
  refine ⟨p, (List.mem_filter.1 hp.mem).1, fun hstart => ?_, ?_⟩
  · exact Directive.read_ne_crash_of_trimStart hstart hp.error
  · apply Classical.byContradiction
    intro hascii
    refine Directive.read_ne_crash_of_ascii (fun c hc => ?_) hp.error
    exact Nat.lt_of_not_le fun hle => hascii ⟨c, hc, hle⟩

end Log

end AuthProxy
