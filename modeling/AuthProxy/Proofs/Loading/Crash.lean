import AuthProxy.Proofs.Loading.Layering

/-!
# Which loads crash

A text that overfills the last second crashes whatever reads it as a duration. The theorems here carry this from the reader of
durations to the coercion of a variable, to the collection of the overrides and to a whole load, each with the exact
condition: what does not crash ends with a value, or with a fault that names the variable (`crash_iff`). Besides, a load crashes over
a file with a key that leads into a list which memory does not hold.
-/

namespace AuthProxy

open Duration Layer Text

/-! ## Variables -/

theorem Coercion.apply_eq_crash_iff {c : Coercion} {key raw : String} :
    c.apply key raw = .error .crash ↔ c = .duration ∧ Overfills raw := by
  rw [apply_eq_error_iff, Outcome.mapFault_eq_crash_iff, read_eq_crash]

/-- A fault in the text of a variable names the variable. -/
theorem Coercion.fault_of_apply {c : Coercion} {key raw : String} {cause : Fault}
    (h : c.apply key raw = .error (.fault cause)) : ∃ reason, cause = .unreadableVariable key reason := by
  obtain ⟨-, h⟩ := apply_eq_error_iff.1 h
  obtain ⟨reason, -, rfl⟩ := Outcome.mapFault_eq_fault_iff.1 h
  exact ⟨reason, rfl⟩

theorem Coercion.eq_ok_of_duration {key raw : String} {v : CoercedValue}
    (h : Coercion.duration.apply key raw = .ok v) :
    (∃ d, read raw = .ok d) ∧ v = .text (String.ofList (trim raw.toList)) := by
  obtain ⟨d, hd, h⟩ := Outcome.bind_eq_ok_iff.1 h
  cases h
  exact ⟨⟨d, Outcome.mapFault_eq_ok_iff.1 hd⟩, rfl⟩

theorem Binding.coercion_eq_duration_iff {b : Binding} : b.coercion = .duration ↔ b.field.kind = .duration := by
  rw [Binding.coercion]
  cases b.field.kind <;> decide

/-- A variable of which the text overfills its field, while those before it in the table can be coerced. -/
def OverfillsVariable (pairs : List (String × String)) : Prop :=
  ∃ pre b post raw, Binding.table = pre ++ b :: post ∧ (∀ a ∈ pre, ∃ v, a.coerced pairs = .ok v) ∧
    b.field.kind = .duration ∧ lastValue? pairs b.key = some raw ∧ Overfills raw

theorem collectOverrides_eq_crash_iff {pairs : List (String × String)} :
    collectOverrides pairs = .error .crash ↔ OverfillsVariable pairs := by
  rw [collectOverrides_eq_error_iff]
  constructor
  · rintro ⟨b, pre, post, htable, hpre, hb⟩
    obtain ⟨raw, hraw, hb⟩ := Binding.coerced_eq_error_iff.1 hb
    obtain ⟨hc, ho⟩ := Coercion.apply_eq_crash_iff.1 hb
    exact ⟨pre, b, post, raw, htable, hpre, Binding.coercion_eq_duration_iff.1 hc, hraw, ho⟩
  · rintro ⟨pre, b, post, raw, htable, hpre, hkind, hraw, ho⟩
    refine ⟨b, pre, post, htable, hpre, Binding.coerced_eq_error_iff.2 ⟨raw, hraw, ?_⟩⟩
    exact Coercion.apply_eq_crash_iff.2 ⟨Binding.coercion_eq_duration_iff.2 hkind, ho⟩

theorem fault_of_collectOverrides {pairs : List (String × String)} {cause : Fault}
    (h : collectOverrides pairs = .error (.fault cause)) :
    ∃ b ∈ Binding.table, ∃ reason, cause = .unreadableVariable b.key reason := by
  obtain ⟨b, hb⟩ := collectOverrides_eq_error_iff.1 h
  obtain ⟨raw, -, herror⟩ := Binding.coerced_eq_error_iff.1 hb.error
  exact ⟨b, hb.mem, Coercion.fault_of_apply herror⟩

/-! ## Trees -/

/-- A field of a tree of which the text overfills it, while those before it in an order can be read. -/
def OverfillsField (order : Field.Order) (file : Option String) (t : Tree) : Prop :=
  ∃ pre f post n fromFile s, order.fields = pre ++ f :: post ∧ (∀ g ∈ pre, ∃ o, readField file t g = .ok o) ∧
    f.kind = .duration ∧ Located.follow ⟨t, ""⟩ f.route = .ok (some n) ∧ n.tree = .scalar fromFile s ∧
    Overfills (Located.scalarText s)

theorem step_ne_crash {n : Located} {s : Step} : n.step s ≠ .error .crash := by
  unfold Located.step
  split
  · exact Outcome.ok_ne_crash
  · exact Outcome.ok_ne_crash
  · exact Outcome.report_ne_crash

theorem follow_ne_crash {route : List Step} : ∀ {n : Located}, n.follow route ≠ .error .crash := by
  induction route with
  | nil => exact Outcome.ok_ne_crash
  | cons s r ih =>
    intro n h
    rcases Outcome.bind_eq_error_iff.1 h with h | ⟨o, -, h⟩
    · exact step_ne_crash h
    · cases o with
      | none => cases h
      | some m => exact ih h

theorem readField_eq_crash_iff {file : Option String} {t : Tree} {f : Field} : readField file t f = .error .crash ↔
    ∃ n fromFile s, f.kind = .duration ∧ Located.follow ⟨t, ""⟩ f.route = .ok (some n) ∧
      n.tree = .scalar fromFile s ∧ Overfills (Located.scalarText s) := by
  rw [readField, Outcome.bind_eq_error_iff]
  constructor
  · rintro (h | ⟨o, hn, h⟩)
    · exact absurd h follow_ne_crash
    · cases o with
      | none => cases h
      | some n =>
        obtain ⟨hkind, b, s, htree, ho⟩ := Located.value_eq_crash_iff.1 (Outcome.map_eq_error_iff.1 h)
        exact ⟨n, b, s, hkind, hn, htree, ho⟩
  · rintro ⟨n, b, s, hkind, hn, htree, ho⟩
    refine .inr ⟨some n, hn, Outcome.map_eq_error_iff.2 ?_⟩
    exact Located.value_eq_crash_iff.2 ⟨hkind, b, s, htree, ho⟩

theorem readConfiguration_eq_crash_iff {order : Field.Order} {file : Option String} {t : Tree} :
    readConfiguration order file t = .error .crash ↔ OverfillsField order file t := by
  rw [readConfiguration_eq_error_iff]
  constructor
  · rintro ⟨f, pre, post, hall, hpre, hf⟩
    obtain ⟨n, b, s, hkind, hn, htree, ho⟩ := readField_eq_crash_iff.1 hf
    exact ⟨pre, f, post, n, b, s, hall, hpre, hkind, hn, htree, ho⟩
  · rintro ⟨pre, f, post, n, b, s, hall, hpre, hkind, hn, htree, ho⟩
    exact ⟨f, pre, post, hall, hpre, readField_eq_crash_iff.2 ⟨n, b, s, hkind, hn, htree, ho⟩⟩

/-- Overrides alone do not make a tree that crashes, since a duration among them has been read before. -/
theorem not_overfillsField_override {pairs : List (String × String)} {os : List Override} {order : Field.Order}
    {file : Option String} (hos : collectOverrides pairs = .ok os) :
    ¬ OverfillsField order file (Sources.override .empty os) := by
  rintro ⟨pre, f, post, n, fromFile, s, -, -, hkind, hn, htree, ho⟩
  have hcrash : readField file (Sources.override .empty os) f = .error .crash :=
    readField_eq_crash_iff.2 ⟨n, fromFile, s, hkind, hn, htree, ho⟩
  obtain ⟨b, hb, rfl⟩ := Binding.exists_mem_table f
  obtain ⟨w, hw⟩ := coerced_of_collectOverrides hos hb
  cases w with
  | none =>
    rw [readField_of_not_overridden Tree.sectional_empty hos hb hw, Loader.readField_empty] at hcrash
    cases hcrash
  | some v =>
    rw [readField_override hos hb hw] at hcrash
    obtain ⟨-, fromFile, s, htree, ho⟩ := Located.value_eq_crash_iff.1 (Outcome.map_eq_error_iff.1 hcrash)
    obtain ⟨raw, -, hv⟩ := Binding.coerced_eq_ok_some_iff.1 hw
    rw [Binding.coercion_eq_duration_iff.2 hkind] at hv
    obtain ⟨⟨d, hd⟩, rfl⟩ := Coercion.eq_ok_of_duration hv
    cases htree
    -- the override is the trimmed text of the variable, which is read as the text itself
    have hread : Overfills raw := by
      rw [Overfills, ← trim_trim]
      rwa [Overfills, Located.scalarText, String.toList_ofList] at ho
    rw [read_eq_crash.2 hread] at hd
    cases hd

/-! ## Loads -/

section Loads

variable {fs : FileSystem} {l : Loader} {pairs : List (String × String)} {w : Walk}

theorem load_eq_crash_iff : (l.loadFrom fs pairs w).outcome = .error .crash ↔ OverfillsVariable pairs ∨
    ∃ os, collectOverrides pairs = .ok os ∧ (l.OutOfRoom fs ∨ ∃ base file, l.fileTree fs w = .ok (base, file) ∧
      OverfillsField w.fields file (Sources.override base os)) := by
  rw [Loader.outcome_eq_crash_iff, collectOverrides_eq_crash_iff]
  simp only [readConfiguration_eq_crash_iff]

/-- Without a file only a variable crashes a load. -/
theorem load_eq_crash_iff_of_none (h : l.file = none) :
    (l.loadFrom fs pairs w).outcome = .error .crash ↔ OverfillsVariable pairs := by
  rw [load_eq_crash_iff, or_iff_left]
  rintro ⟨os, hos, ⟨t, ht, -⟩ | ⟨base, file, hbase, ho⟩⟩
  · rw [Loader.document?, h] at ht
    cases ht
  · rw [Loader.fileTree_of_none h] at hbase
    cases hbase
    exact not_overfillsField_override hos ho

end Loads

/-- **What crashes, and what is a fault.** Reading a duration, coercing a variable, collecting the overrides and loading crash
    exactly over texts that overfill the last second, and over a file where memory does not hold what it leads to. Any other literal
    that stands for more than the greatest duration is a fault, and the fault of a variable names it, up to the end of the load. -/
theorem crash_iff (fs : FileSystem) (l : Loader) (pairs : List (String × String)) :
    (∀ raw, read raw = .error .crash ↔ Overfills raw) ∧
    (∀ raw ss, Writes (trim raw.toList) ss → ss ≠ [] → 2 ^ 64 * 10 ^ 9 - 1 < literalValue ss → ¬ Overfills raw →
      ∃ reason, read raw = .error (.fault reason)) ∧
    (∀ (c : Coercion) key raw, c.apply key raw = .error .crash ↔ c = .duration ∧ Overfills raw) ∧
    (∀ (c : Coercion) key raw cause, c.apply key raw = .error (.fault cause) →
      ∃ reason, cause = .unreadableVariable key reason) ∧
    (collectOverrides pairs = .error .crash ↔ OverfillsVariable pairs) ∧
    (∀ cause, collectOverrides pairs = .error (.fault cause) →
      (∃ b ∈ Binding.table, ∃ reason, cause = .unreadableVariable b.key reason) ∧
        ∀ w, (l.loadFrom fs pairs w).outcome = .error (.fault (.ofFault cause))) ∧
    (∀ w, (l.loadFrom fs pairs w).outcome = .error .crash ↔ OverfillsVariable pairs ∨
      ∃ os, collectOverrides pairs = .ok os ∧ (l.OutOfRoom fs ∨ ∃ base file, l.fileTree fs w = .ok (base, file) ∧
        OverfillsField w.fields file (Sources.override base os))) ∧
    (l.file = none → ∀ w, (l.loadFrom fs pairs w).outcome = .error .crash ↔ OverfillsVariable pairs) := by
  refine ⟨fun raw => read_eq_crash, fun raw ss hw hne hlong hover => fault_of_literalValue hw hne hlong hover,
    fun c key raw => Coercion.apply_eq_crash_iff, fun c key raw cause h => Coercion.fault_of_apply h,
    collectOverrides_eq_crash_iff, fun cause h => ⟨fault_of_collectOverrides h, fun w => Loader.outcome_of_fault h⟩,
    fun w => load_eq_crash_iff, fun h w => load_eq_crash_iff_of_none h⟩

/-- The greatest number of seconds with a full second of nanoseconds behind it is such a text. -/
theorem load_crash_iff_greatest : (Loader.loadFrom .blank {}
    [("SESSION_COOKIE_EXPIRE", "18446744073709551615s 1000000000ns")]).outcome = .error .crash := by
  obtain ⟨-, -, -, -, hcollect, -, -, hload⟩ := crash_iff .blank {}
    [("SESSION_COOKIE_EXPIRE", "18446744073709551615s 1000000000ns")]
  refine (hload rfl {}).2 (hcollect.1 ?_)
  decide +kernel

end AuthProxy
