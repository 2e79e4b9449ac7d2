import AuthProxy.Proofs.Log.Cuts
import AuthProxy.Proofs.Text.Joined
import AuthProxy.Proofs.Text.Trimmed

/-!
# Capitals in the text of a level

The names of levels may be written in letters of any case, and for that the whole text is read in small letters. So are the targets
in it: directives that give levels to targets make the filter of these targets in small letters, in which of two targets that
differ in case alone only the later one is left (`Filter.ofText_written`). It is the filter of the targets as they are given exactly
if they have no capitals.
-/

namespace AuthProxy.Log

open Text

variable {c : Char} {t : List Char} {entries es : List (List Char × Level)}

/-! ## Characters -/

/-- A character of a target. -/
def isTargetChar (c : Char) : Bool :=
  c.isAlphanum || c == '_' || c == ':'

theorem isTargetChar_iff : isTargetChar c = true ↔ c.isAlphanum = true ∨ c = '_' ∨ c = ':' := by
  rw [isTargetChar, Bool.or_eq_true, Bool.or_eq_true, beq_iff_eq, beq_iff_eq, or_assoc]

/-- A target is written in ASCII. -/
theorem lt_of_isTargetChar (h : isTargetChar c = true) : c.toNat < 128 := by
  rcases isTargetChar_iff.1 h with h | rfl | rfl
  · rw [isAlphanum_iff] at h
    omega
  · decide
  · decide

theorem ne_of_isTargetChar {d : Char} (hc : isTargetChar c = true) (hd : isTargetChar d = false) : c ≠ d := by
  rintro rfl
  rw [hc] at hd
  cases hd

theorem isTargetChar_toLower (h : isTargetChar c = true) : isTargetChar c.toLower = true :=
  forall_ascii (p := fun c => isTargetChar c = true → isTargetChar c.toLower = true) (by decide +kernel)
    (lt_of_isTargetChar h) h

/-- A directive may begin with it. -/
theorem isFirst_of_isTargetChar (h : isTargetChar c = true) : Directive.isFirst c = true :=
  forall_ascii (p := fun c => isTargetChar c = true → Directive.isFirst c = true) (by decide +kernel)
    (lt_of_isTargetChar h) h

/-- A character that is written in a directive for a target, or between two of them. -/
def isWritten (c : Char) : Bool :=
  isTargetChar c || c == '=' || c == ','

theorem isWritten_iff : isWritten c = true ↔ isTargetChar c = true ∨ c = '=' ∨ c = ',' := by
  rw [isWritten, Bool.or_eq_true, Bool.or_eq_true, beq_iff_eq, beq_iff_eq, or_assoc]

theorem lt_of_isWritten (h : isWritten c = true) : c.toNat < 128 := by
  rcases isWritten_iff.1 h with h | rfl | rfl
  · exact lt_of_isTargetChar h
  · decide
  · decide

theorem not_isBlank_of_isWritten (h : isWritten c = true) : isBlank c = false :=
  forall_ascii (p := fun c => isWritten c = true → isBlank c = false) (by decide +kernel) (lt_of_isWritten h) h

theorem Level.isTargetChar_of_mem_name {l : Level} (h : c ∈ l.name) : isTargetChar c = true := by
  have hall : l.name.all isTargetChar = true := by
    cases l <;> decide
  exact List.all_eq_true.1 hall c h

/-- The name of a level in letters of any case is written like a target. -/
theorem isTargetChar_of_toLower_mem_name {l : Level} (h : c.toLower ∈ l.name) : isTargetChar c = true := by
  by_cases hcapital : 65 ≤ c.toNat ∧ c.toNat ≤ 90
  · exact isTargetChar_iff.2 (.inl (isAlphanum_iff.2 (.inl hcapital)))
  · rw [toLower_of_not_capital hcapital] at h
    exact Level.isTargetChar_of_mem_name h

/-- A target and a name with an equals sign between them. -/
theorem isWritten_of_mem_append {target name : List Char} (htarget : ∀ c ∈ target, isTargetChar c = true)
    (hname : ∀ c ∈ name, isTargetChar c = true) : ∀ c ∈ target ++ '=' :: name, isWritten c = true := by
  intro c hc
  rw [isWritten_iff]
  rcases List.mem_append.1 hc with hc | hc
  · exact .inl (htarget c hc)
  rcases List.mem_cons.1 hc with rfl | hc
  · exact .inr (.inl rfl)
  · exact .inl (hname c hc)

/-! ## Directives for targets -/

/-- The directive that gives a level to a target. -/
def forTarget (e : List Char × Level) : Directive :=
  { target := some e.1, level := e.2 }

theorem forTarget_injective : Function.Injective forTarget := by
  rintro ⟨t, l⟩ ⟨t', l'⟩ h
  cases h
  rfl

theorem slice_front (target r : List Char) : slice (target ++ r) 0 (utf8Length target) = .ok target := by
  rw [slice, dropBytes, Nat.sub_zero]
  exact takeBytes_append target r

theorem dropBytes_equals (target r : List Char) : dropBytes (utf8Length target + 1) (target ++ '=' :: r) = .ok r := by
  have hlength : utf8Length target + 1 = utf8Length (target ++ ['=']) := by
    rw [utf8Length_append]
    rfl
  have hsplit : target ++ '=' :: r = (target ++ ['=']) ++ r := by
    rw [List.append_assoc]
    rfl
  rw [hlength, hsplit]
  exact dropBytes_append _ _

namespace Directive

/-- A target goes on up to its level. -/
theorem readFrom_levelOrTarget {target : List Char} (h : ∀ c ∈ target, isTargetChar c = true) (text r : List Char)
    (start position : Nat) (d : Directive) :
    readFrom text position (.levelOrTarget start) d (target ++ '=' :: r) =
      (do
        let target' ← slice text start (position + utf8Length target)
        readFrom text (position + utf8Length target + 1) (.level (position + utf8Length target + 1))
          { d with target := some target' } r) := by
  induction target generalizing position with
  | nil =>
    rw [List.nil_append, readFrom, advance, if_pos rfl, bind_assoc]
    rfl
  | cons c target ih =>
    obtain ⟨hc, htarget⟩ := List.forall_mem_cons.1 h
    rw [List.cons_append, readFrom, advance, if_neg (ne_of_isTargetChar hc rfl), if_neg (ne_of_isTargetChar hc rfl)]
    change readFrom text (position + c.utf8Size) (.levelOrTarget start) d (target ++ '=' :: r) = _
    rw [ih htarget, utf8Length_cons, Nat.add_assoc]

/-- A level goes on to the end. -/
theorem readFrom_level (text r : List Char) (start position : Nat) (d : Directive) :
    readFrom text position (.level start) d r = finish text d (.level start) := by
  induction r generalizing position with
  | nil => rfl
  | cons c r ih => exact ih (position + c.utf8Size)

theorem finish_level {text : List Char} {start : Nat} {l : Level} (h : dropBytes start text = .ok l.name) (d : Directive) :
    finish text d (.level start) = .ok { d with level := l } := by
  have hname : l.name.isEmpty = false := by
    cases l <;> rfl
  rw [finish, h]
  change (if l.name.isEmpty = true then _ else _) = _
  rw [hname, Level.read?_name]
  rfl

/-- The run over a directive for a target, which is cut from a text that has it in front. -/
theorem readFrom_forTarget {text : List Char} {l : Level} (hne : t ≠ []) (ht : ∀ c ∈ t, isTargetChar c = true)
    (hslice : slice text 0 (utf8Length t) = .ok t) (hdrop : dropBytes (utf8Length t + 1) text = .ok l.name) :
    readFrom text 0 .start {} (t ++ '=' :: l.name) = .ok (forTarget (t, l)) := by
  obtain ⟨c, r, rfl⟩ := List.exists_cons_of_ne_nil hne
  obtain ⟨hc, hr⟩ := List.forall_mem_cons.1 ht
  have hstart : advance text {} 0 c .start = .ok (.levelOrTarget 0, {}) := by
    rw [advance, if_neg (ne_of_isTargetChar hc rfl), if_pos (isFirst_of_isTargetChar hc)]
  have hposition : 0 + c.utf8Size + utf8Length r = utf8Length (c :: r) := by
    rw [utf8Length_cons, Nat.zero_add]
  calc readFrom text 0 .start {} (c :: r ++ '=' :: l.name)
      = readFrom text (0 + c.utf8Size) (.levelOrTarget 0) {} (r ++ '=' :: l.name) := by
        rw [List.cons_append, readFrom, hstart]
        rfl
    _ = finish text { target := some (c :: r) } (.level (utf8Length (c :: r) + 1)) := by
        rw [readFrom_levelOrTarget hr, hposition, hslice]
        exact readFrom_level _ _ _ _ _
    _ = .ok (forTarget (c :: r, l)) := finish_level hdrop _

/-- **A directive for a target** is read as such. -/
theorem read_forTarget (hne : t ≠ []) (ht : ∀ c ∈ t, isTargetChar c = true) (l : Level) :
    read (t ++ '=' :: l.name) = .ok (forTarget (t, l)) := by
  have hwritten := isWritten_of_mem_append ht fun c (hc : c ∈ l.name) => Level.isTargetChar_of_mem_name hc
  have htrim : trim (t ++ '=' :: l.name) = t ++ '=' :: l.name :=
    trim_of_not_isBlank fun c hc => not_isBlank_of_isWritten (hwritten c hc)
  rw [read, htrim]
  exact readFrom_forTarget hne ht (slice_front t _) (dropBytes_equals t _)

end Directive

/-! ## Filters of targets -/

/-- Targets in the order of directives: by their lengths, and then by what they are. -/
def targetOrder : List Char → List Char → Ordering :=
  compareLex (compareOn utf8Length) compare

instance : Std.TransCmp targetOrder :=
  inferInstanceAs (Std.TransCmp (compareLex (compareOn utf8Length) compare))

theorem targetOrder_eq_iff {a b : List Char} : targetOrder a b = .eq ↔ a = b := by
  constructor
  · intro h
    exact Std.LawfulEqCmp.eq_of_compare (Ordering.then_eq_eq.1 h).2
  · rintro rfl
    exact Std.ReflCmp.compare_self

theorem order_forTarget (d e : List Char × Level) : (forTarget d).order (forTarget e) = targetOrder d.1 e.1 := by
  change (compare (utf8Length d.1) (utf8Length e.1)).then ((compare d.1 e.1).then .eq) = _
  rw [Ordering.then_eq]
  rfl

theorem ne_of_targetOrder_eq_gt {a b : List Char} (h : targetOrder a b = .gt) : b ≠ a := by
  rintro rfl
  rw [targetOrder_eq_iff.2 rfl] at h
  cases h

/-- Targets with levels, the most specific ones first. -/
def Descending (es : List (List Char × Level)) : Prop :=
  es.Pairwise fun d e => targetOrder d.1 e.1 = .gt

/-- **One more directive** comes to its place, where it replaces that for its target. -/
theorem exists_insert_forTarget (h : Descending es) (d : List Char × Level) :
    ∃ es', Directive.insert (forTarget d) (es.map forTarget) = es'.map forTarget ∧ Descending es' ∧
      ∀ e, e ∈ es' ↔ e = d ∨ e ∈ es ∧ e.1 ≠ d.1 := by
  induction es with
  | nil => exact ⟨[d], rfl, List.pairwise_singleton _ _, by simp⟩
  | cons x es ih =>
    obtain ⟨hx, hes⟩ := List.pairwise_cons.1 h
    rw [List.map_cons, Directive.insert, order_forTarget]
    cases hcompare : targetOrder d.1 x.1 with
    | gt =>
      have hall : ∀ e ∈ x :: es, targetOrder d.1 e.1 = .gt := by
        intro e he
        rcases List.mem_cons.1 he with rfl | he
        · exact hcompare
        · exact Std.TransCmp.gt_trans hcompare (hx e he)
      refine ⟨d :: x :: es, rfl, List.pairwise_cons.2 ⟨hall, h⟩, fun e => ?_⟩
      rw [List.mem_cons]
      exact or_congr_right ⟨fun he => ⟨he, ne_of_targetOrder_eq_gt (hall e he)⟩, And.left⟩
    | eq =>
      have htarget : d.1 = x.1 := targetOrder_eq_iff.1 hcompare
      rw [← htarget] at hx
      refine ⟨d :: es, rfl, List.pairwise_cons.2 ⟨hx, hes⟩, fun e => ?_⟩
      rw [List.mem_cons, List.mem_cons]
      refine or_congr_right ⟨fun he => ⟨.inr he, ne_of_targetOrder_eq_gt (hx e he)⟩, ?_⟩
      rintro ⟨rfl | he, hne⟩
      · exact absurd htarget.symm hne
      · exact he
    | lt =>
      obtain ⟨es', heq, hes', hmem⟩ := ih hes
      have hgt : targetOrder x.1 d.1 = .gt := Std.OrientedCmp.gt_of_lt hcompare
      refine ⟨x :: es', ?_, List.pairwise_cons.2 ⟨fun e he => ?_, hes'⟩, fun e => ?_⟩
      · change forTarget x :: Directive.insert (forTarget d) (es.map forTarget) = _
        rw [heq, List.map_cons]
      · rcases (hmem e).1 he with rfl | ⟨he, -⟩
        · exact hgt
        · exact hx e he
      · have hne : x.1 ≠ d.1 := (ne_of_targetOrder_eq_gt hgt).symm
        rw [List.mem_cons, List.mem_cons, hmem e]
        constructor
        · rintro (rfl | rfl | ⟨he, htarget⟩)
          · exact .inr ⟨.inl rfl, hne⟩
          · exact .inl rfl
          · exact .inr ⟨.inr he, htarget⟩
        · rintro (rfl | ⟨rfl | he, htarget⟩)
          · exact .inr (.inl rfl)
          · exact .inl rfl
          · exact .inr (.inr ⟨he, htarget⟩)

/-- The last entry of each target. -/
def latest : List (List Char × Level) → List (List Char × Level)
  | [] => []
  | e :: r => if r.any (·.1 == e.1) then latest r else e :: latest r

theorem latest_cons_of_mem {d : List Char × Level} {r : List (List Char × Level)} (h : d.1 ∈ r.map (·.1)) :
    latest (d :: r) = latest r := by
  obtain ⟨e, he, htarget⟩ := List.mem_map.1 h
  have hsame : (e.1 == d.1) = true := beq_iff_eq.2 htarget
  exact if_pos (List.any_eq_true.2 ⟨e, he, hsame⟩)

theorem latest_cons_of_not_mem {d : List Char × Level} {r : List (List Char × Level)} (h : d.1 ∉ r.map (·.1)) :
    latest (d :: r) = d :: latest r := by
  refine if_neg fun hany => h ?_
  obtain ⟨e, he, htarget⟩ := List.any_eq_true.1 hany
  exact List.mem_map.2 ⟨e, he, eq_of_beq htarget⟩

theorem latest_subset (entries : List (List Char × Level)) : latest entries ⊆ entries := by
  induction entries with
  | nil => exact List.Subset.refl []
  | cons d r ih =>
    rw [latest]
    split
    · exact List.subset_cons_of_subset d ih
    · exact List.cons_subset_cons d ih

theorem latest_eq_self (h : (entries.map (·.1)).Nodup) : latest entries = entries := by
  induction entries with
  | nil => rfl
  | cons d r ih =>
    obtain ⟨hd, hr⟩ := List.nodup_cons.1 h
    rw [latest_cons_of_not_mem hd, ih hr]

/-- **All directives** together leave the last one for each target. -/
theorem exists_foldl_insert_forTarget (entries : List (List Char × Level)) : ∀ {es}, Descending es →
    ∃ es', (entries.map forTarget).foldl (fun acc d => d.insert acc) (es.map forTarget) = es'.map forTarget ∧
      Descending es' ∧ ∀ e, e ∈ es' ↔ e ∈ latest entries ∨ e ∈ es ∧ e.1 ∉ entries.map (·.1) := by
  induction entries with
  | nil => exact fun {es} h => ⟨es, rfl, h, fun e => by simp [latest]⟩
  | cons d r ih =>
    intro es h
    obtain ⟨es₁, heq, hes₁, hmem₁⟩ := exists_insert_forTarget h d
    obtain ⟨es₂, heq₂, hes₂, hmem₂⟩ := ih hes₁
    refine ⟨es₂, ?_, hes₂, fun e => ?_⟩
    · rw [List.map_cons, List.foldl_cons, heq, heq₂]
    · rw [hmem₂, hmem₁, List.map_cons, List.mem_cons, not_or]
      by_cases hlater : d.1 ∈ r.map (·.1)
      · rw [latest_cons_of_mem hlater]
        refine or_congr_right ⟨?_, fun ⟨he, hne, hr⟩ => ⟨.inr ⟨he, hne⟩, hr⟩⟩
        rintro ⟨rfl | ⟨he, hne⟩, hr⟩
        · exact absurd hlater hr
        · exact ⟨he, hne, hr⟩
      · rw [latest_cons_of_not_mem hlater, List.mem_cons]
        constructor
        · rintro (he | ⟨rfl | ⟨he, hne⟩, hr⟩)
          · exact .inl (.inr he)
          · exact .inl (.inl rfl)
          · exact .inr ⟨he, hne, hr⟩
        · rintro ((rfl | he) | ⟨he, hne, hr⟩)
          · exact .inr ⟨.inl rfl, hlater⟩
          · exact .inl he
          · exact .inr ⟨.inr ⟨he, hne⟩, hr⟩

namespace Filter

variable {f g : Filter}

/-- A filter of targets with their levels, and of nothing else. -/
def MadeOf (f : Filter) (entries : List (List Char × Level)) : Prop :=
  f.dynamics = [] ∧ ∃ es, f.statics = es.map forTarget ∧ Descending es ∧ ∀ e, e ∈ es ↔ e ∈ entries

theorem MadeOf.mem_statics_iff (h : f.MadeOf entries) (e : List Char × Level) : forTarget e ∈ f.statics ↔ e ∈ entries := by
  obtain ⟨-, es, hstatics, -, hmem⟩ := h
  rw [hstatics, List.mem_map_of_injective forTarget_injective, hmem]

/-- There is one such filter. -/
theorem MadeOf.unique (hf : f.MadeOf entries) (hg : g.MadeOf entries) : f = g := by
  obtain ⟨hdynamics, es, hstatics, hes, hmem⟩ := hf
  obtain ⟨hdynamics', es', hstatics', hes', hmem'⟩ := hg
  have hnodup : ∀ {es}, Descending es → es.Nodup := by
    intro es h
    refine h.imp fun {d e} hgt heq => ?_
    exact ne_of_targetOrder_eq_gt hgt (congrArg Prod.fst heq).symm
  have hperm : es.Perm es' :=
    (List.perm_ext_iff_of_nodup (hnodup hes) (hnodup hes')).2 fun e => (hmem e).trans (hmem' e).symm
  have heq : es = es' := by
    refine hperm.eq_of_pairwise (fun a b _ _ hab hba => ?_) hes hes'
    rw [Std.OrientedCmp.gt_iff_lt] at hab
    rw [hab] at hba
    cases hba
  obtain ⟨statics, dynamics⟩ := f
  obtain ⟨statics', dynamics'⟩ := g
  cases hdynamics
  cases hdynamics'
  cases hstatics
  cases hstatics'
  rw [heq]

theorem madeOf_ofDirectives (entries : List (List Char × Level)) :
    (ofDirectives (entries.map forTarget)).MadeOf (latest entries) := by
  have hnil : Descending [] := .nil
  obtain ⟨es, heq, hes, hmem⟩ := exists_foldl_insert_forTarget entries hnil
  have hstatic : (entries.map forTarget).filter (·.isStatic) = entries.map forTarget := by
    refine List.filter_eq_self.2 fun d hd => ?_
    obtain ⟨e, -, rfl⟩ := List.mem_map.1 hd
    rfl
  have hdynamic : (entries.map forTarget).filter (·.isDynamic) = [] := by
    refine List.filter_eq_nil_iff.2 fun d hd => ?_
    obtain ⟨e, -, rfl⟩ := List.mem_map.1 hd
    exact Bool.false_ne_true
  refine ⟨?_, es, ?_, hes, fun e => ?_⟩
  · rw [ofDirectives, hdynamic]
    rfl
  · rw [ofDirectives, hstatic]
    exact heq
  · rw [hmem]
    exact or_iff_left fun h => nomatch h.1

end Filter

/-! ## Directives as they are written -/

/-- Names of letters, digits and underscores, with two colons between them. -/
def IsPath (target : List Char) : Prop :=
  ∃ names : List (List Char), names ≠ [] ∧ (∀ n ∈ names, n ≠ [] ∧ n.all (fun c => c.isAlphanum || c == '_') = true) ∧
    target = [':', ':'].intercalate names

theorem IsPath.ne_nil (h : IsPath t) : t ≠ [] := by
  obtain ⟨names, hne, hnames, rfl⟩ := h
  obtain ⟨n, r, rfl⟩ := List.exists_cons_of_ne_nil hne
  have hn : n ≠ [] := (hnames n List.mem_cons_self).1
  cases r with
  | nil => rwa [List.intercalate_singleton]
  | cons m r =>
    rw [List.intercalate_cons_cons, List.append_assoc]
    exact List.append_ne_nil_of_left_ne_nil hn _

theorem IsPath.isTargetChar (h : IsPath t) : ∀ c ∈ t, isTargetChar c = true := by
  obtain ⟨names, -, hnames, rfl⟩ := h
  intro c hc
  rw [isTargetChar_iff]
  rcases of_mem_intercalate hc with hc | ⟨n, hn, hc⟩
  · rcases List.mem_pair.1 hc with rfl | rfl <;> exact .inr (.inr rfl)
  · have hname := List.all_eq_true.1 (hnames n hn).2 c hc
    rw [Bool.or_eq_true, beq_iff_eq] at hname
    exact hname.imp_right .inl

/-- A directive for a target, with the name of its level in letters of any case. -/
structure Written where
  target : List Char
  level : Level
  name : List Char
  isPath : IsPath target
  isName : name.map Char.toLower = level.name

namespace Written

/-- The directive as a text. -/
def text (w : Written) : List Char :=
  w.target ++ '=' :: w.name

/-- The target as it is given, with its level. -/
def given (w : Written) : List Char × Level :=
  (w.target, w.level)

/-- The target in small letters, with its level. -/
def folded (w : Written) : List Char × Level :=
  (w.target.map Char.toLower, w.level)

theorem isWritten_of_mem_text (w : Written) : ∀ c ∈ w.text, isWritten c = true := by
  refine isWritten_of_mem_append w.isPath.isTargetChar fun c hc => ?_
  have hlower : c.toLower ∈ w.level.name := w.isName ▸ List.mem_map_of_mem hc
  exact isTargetChar_of_toLower_mem_name hlower

theorem map_toLower_text (w : Written) : w.text.map Char.toLower = w.target.map Char.toLower ++ '=' :: w.level.name := by
  rw [text, List.map_append, List.map_cons, w.isName]
  rfl

/-- In small letters it is a directive for the target in small letters. -/
theorem read_folded (w : Written) : Directive.read (w.text.map Char.toLower) = .ok (forTarget w.folded) := by
  rw [map_toLower_text]
  refine Directive.read_forTarget (fun h => w.isPath.ne_nil (List.map_eq_nil_iff.1 h)) (fun c hc => ?_) w.level
  obtain ⟨d, hd, rfl⟩ := List.mem_map.1 hc
  exact isTargetChar_toLower (w.isPath.isTargetChar d hd)

/-- It is one piece of a list. -/
theorem comma_not_mem (w : Written) : ',' ∉ w.text.map Char.toLower := by
  have hname : ∀ l : Level, ',' ∉ l.name := by
    intro l
    cases l <;> decide
  rw [map_toLower_text, List.mem_append, List.mem_cons, not_or, not_or]
  refine ⟨fun h => ?_, by decide, hname w.level⟩
  obtain ⟨d, hd, hcomma⟩ := List.mem_map.1 h
  exact ne_of_isTargetChar (isTargetChar_toLower (w.isPath.isTargetChar d hd)) rfl hcomma

end Written

/-! ## The text of a level -/

section Texts

variable {before after : List Char} {ws : List Written}

/-- The text of a level is read in small letters as a whole. -/
theorem lowerCase_trim_written (hbefore : ∀ c ∈ before, isBlank c = true) (hafter : ∀ c ∈ after, isBlank c = true) :
    lowerCase (trim (before ++ [','].intercalate (ws.map (·.text)) ++ after)) =
      [','].intercalate (ws.map (·.text.map Char.toLower)) := by
  have hwritten : ∀ c ∈ [','].intercalate (ws.map (·.text)), isWritten c = true := by
    intro c hc
    rcases of_mem_intercalate hc with hc | ⟨p, hp, hc⟩
    · rw [List.mem_singleton.1 hc]
      rfl
    · obtain ⟨w, -, rfl⟩ := List.mem_map.1 hp
      exact w.isWritten_of_mem_text c hc
  have htrim := trim_of_not_isBlank fun c hc => not_isBlank_of_isWritten (hwritten c hc)
  rw [trim_append_append hbefore htrim hafter, lowerCase_ascii fun c hc => lt_of_isWritten (hwritten c hc),
    map_intercalate, List.map_map]
  rfl

/-- **Directives for targets** are the filter of these targets in small letters. -/
theorem Filter.exists_ofText_written (hbefore : ∀ c ∈ before, isBlank c = true)
    (hafter : ∀ c ∈ after, isBlank c = true) (hne : ws ≠ []) :
    ∃ f, ofText (String.ofList (before ++ [','].intercalate (ws.map (·.text)) ++ after)) = .ok f ∧
      f.MadeOf (latest (ws.map (·.folded))) := by
  have hsplit : splitAt ',' ([','].intercalate (ws.map (·.text.map Char.toLower))) = ws.map (·.text.map Char.toLower) := by
    refine splitAt_intercalate (fun h => hne (List.map_eq_nil_iff.1 h)) fun p hp => ?_
    obtain ⟨w, -, rfl⟩ := List.mem_map.1 hp
    exact w.comma_not_mem
  have hfilter : (ws.map (·.text.map Char.toLower)).filter (· ≠ []) = ws.map (·.text.map Char.toLower) := by
    refine List.filter_eq_self.2 fun p hp => ?_
    obtain ⟨w, -, rfl⟩ := List.mem_map.1 hp
    rw [w.map_toLower_text]
    exact decide_eq_true (List.append_ne_nil_of_right_ne_nil _ (List.cons_ne_nil _ _))
  have hread : (ws.map (·.text.map Char.toLower)).mapM Directive.read = .ok ((ws.map (·.folded)).map forTarget) := by
    rw [List.mapM_map, List.map_map]
    exact mapM_eq_ok_map fun w _ => w.read_folded
  refine ⟨ofDirectives ((ws.map (·.folded)).map forTarget), ?_, madeOf_ofDirectives _⟩
  rw [ofText, String.toList_ofList, lowerCase_trim_written hbefore hafter, read, hsplit, hfilter, hread]
  rfl

/-- The targets as they are given make the filter exactly if they have no capitals. -/
theorem Filter.madeOf_given_iff {f : Filter} (hf : f.MadeOf (latest (ws.map (·.folded))))
    (hnodup : (ws.map (·.target)).Nodup) :
    f.MadeOf (ws.map (·.given)) ↔ ∀ w ∈ ws, w.target.map Char.toLower = w.target := by
  constructor
  · intro hgiven w hw
    have hmem : w.given ∈ latest (ws.map (·.folded)) :=
      (hf.mem_statics_iff _).1 ((hgiven.mem_statics_iff _).2 (List.mem_map_of_mem hw))
    obtain ⟨v, -, hv⟩ := List.mem_map.1 (latest_subset _ hmem)
    have htarget : v.target.map Char.toLower = w.target := congrArg Prod.fst hv
    rw [← htarget, List.map_map]
    exact List.map_congr_left fun c _ => toLower_toLower c
  · intro hlower
    have hsame : ws.map (·.folded) = ws.map (·.given) :=
      List.map_congr_left fun w hw => congrArg (·, w.level) (hlower w hw)
    have hdistinct : ((ws.map (·.given)).map (·.1)).Nodup := by
      rwa [List.map_map]
    rwa [hsame, latest_eq_self hdistinct] at hf

/-- **Directives for targets**, with blanks around the whole, are always a filter. It is made of the targets in small letters, each
    with the level of the last directive that it has then. So distinct targets make the filter of just what is given if and only
    if none of them has a capital. -/
theorem Filter.ofText_written (hbefore : ∀ c ∈ before, isBlank c = true) (hafter : ∀ c ∈ after, isBlank c = true)
    (hne : ws ≠ []) :
    ∃ f, ofText (String.ofList (before ++ [','].intercalate (ws.map (·.text)) ++ after)) = .ok f ∧
      f.MadeOf (latest (ws.map (·.folded))) ∧
      ((ws.map (·.target)).Nodup →
        (f.MadeOf (ws.map (·.given)) ↔ ∀ w ∈ ws, w.target.map Char.toLower = w.target)) := by
  obtain ⟨f, hread, hf⟩ := exists_ofText_written hbefore hafter hne
  exact ⟨f, hread, hf, madeOf_given_iff hf⟩

/-- Targets of which two differ in case alone. -/
def mixedCase : List Written :=
  [⟨"Sso::api".toList, .debug, "DEBUG".toList,
    ⟨["Sso".toList, "api".toList], by decide, by decide, rfl⟩, rfl⟩,
   ⟨"net_2".toList, .info, "Info".toList,
    ⟨["net_2".toList], by decide, by decide, rfl⟩, rfl⟩,
   ⟨"sso::api".toList, .warn, "warn".toList,
    ⟨["sso".toList, "api".toList], by decide, by decide, rfl⟩, rfl⟩]

/-- The later one of them is left, so that the filter is not of what is given. -/
theorem Filter.ofText_written_mixedCase : ∃ f, ofText " Sso::api=DEBUG,net_2=Info,sso::api=warn\t" = .ok f ∧
    f.MadeOf [("net_2".toList, .info), ("sso::api".toList, .warn)] ∧ ¬ f.MadeOf (mixedCase.map (·.given)) := by
  have hspace : ∀ c ∈ [' '], isBlank c = true := List.all_eq_true.1 rfl
  have htab : ∀ c ∈ ['\t'], isBlank c = true := List.all_eq_true.1 rfl
  obtain ⟨f, hread, hf, hgiven⟩ := ofText_written hspace htab (List.cons_ne_nil _ _ : mixedCase ≠ [])
  refine ⟨f, hread, hf, fun h => ?_⟩
  have hlower := (hgiven (by decide)).1 h _ List.mem_cons_self
  revert hlower
  decide

/-- A target with a capital. -/
def capital : Written :=
  ⟨"Sso".toList, .debug, "debug".toList,
    ⟨["Sso".toList], by decide, by decide, rfl⟩, rfl⟩

/-- It is enough for that, also where no target is the name of a level. -/
theorem Filter.not_madeOf_capital : ¬ ∀ (before after : List Char) (ws : List Written), (∀ c ∈ before, isBlank c = true) →
    (∀ c ∈ after, isBlank c = true) → ws ≠ [] → (ws.map (·.target)).Nodup →
    (∀ w ∈ ws, ∀ l : Level, w.target.map Char.toLower ≠ l.name) →
    ∃ f, ofText (String.ofList (before ++ [','].intercalate (ws.map (·.text)) ++ after)) = .ok f ∧
      f.MadeOf (ws.map (·.given)) := by
  intro h
  have hname : ∀ w ∈ [capital], ∀ l : Level, w.target.map Char.toLower ≠ l.name := by
    intro w hw l
    rw [List.mem_singleton.1 hw]
    cases l <;> decide
  obtain ⟨f, hread, hf⟩ := h [] [] [capital] (List.forall_mem_nil _) (List.forall_mem_nil _) (List.cons_ne_nil _ _)
    (List.pairwise_singleton _ _) hname
  have hsso : ofText "Sso=debug" = .ok ⟨[{ target := some "sso".toList, level := .debug }], []⟩ := by
    decide +kernel
  have htext : ofText "Sso=debug" = .ok f := hread
  rw [hsso] at htext
  cases htext
  have hmem := (hf.mem_statics_iff capital.given).2 List.mem_cons_self
  revert hmem
  decide

end Texts

end AuthProxy.Log
