import AuthProxy.Proofs.Loading.Walks

/-!
# Layering field by field

What a load gives a field depends on that field alone: on the last value of its variable, or on the file where the variable does
not occur (`outcome_eq_ok_iff_fields`). So a load is put together from the load of the file and from loads of single
variables (`load_pointwise`).
-/

namespace AuthProxy

open Layer

/-- The value that a text gives to the field of a variable. -/
def Binding.Gives (b : Binding) (raw : String) (x : b.field.Value) : Prop :=
  ∃ v, b.coercion.apply b.key raw = .ok v ∧
    Located.value none ⟨Sources.overrideTree v, b.field.dotted⟩ b.field.kind = .ok x

/-- What a load gives to the field of a variable over a file. -/
def Binding.Reads (b : Binding) (pairs : List (String × String)) (file : Option String) (base : Tree)
    (x : b.field.Value) : Prop :=
  match lastValue? pairs b.key with
  | some raw => b.Gives raw x
  | none => ∃ o, readField file base b.field = .ok o ∧ x = o.getD (Field.get .default b.field)

section Fields

variable {b : Binding} {pairs : List (String × String)} {os : List Override} {file : Option String} {base : Tree}
  {x : b.field.Value}

/-- A field is given what is read from the tree with the overrides in it. -/
theorem Binding.reads_iff (hbase : base.Sectional) (hos : collectOverrides pairs = .ok os) (hb : b ∈ Binding.table) :
    b.Reads pairs file base x ↔
      ∃ o, readField file (Sources.override base os) b.field = .ok o ∧ x = o.getD (Field.get .default b.field) := by
  unfold Binding.Reads
  cases hlast : lastValue? pairs b.key with
  | none =>
    have hcoerced := Binding.coerced_eq_ok_none_iff.2 hlast
    rw [readField_of_not_overridden hbase hos hb hcoerced]
  | some raw =>
    constructor
    · rintro ⟨v, hv, hx⟩
      have hcoerced := Binding.coerced_eq_ok_some_iff.2 ⟨raw, hlast, hv⟩
      rw [readField_override hos hb hcoerced]
      exact ⟨some x, Outcome.map_eq_ok_iff.2 ⟨x, Located.value_eq_ok_congr rfl hx, rfl⟩, rfl⟩
    · rintro ⟨o, ho, hx⟩
      obtain ⟨w, hw⟩ := coerced_of_collectOverrides hos hb
      cases w with
      | none =>
        rw [Binding.coerced_eq_ok_none_iff.1 hw] at hlast
        cases hlast
      | some v =>
        obtain ⟨raw', hraw, hv⟩ := Binding.coerced_eq_ok_some_iff.1 hw
        rw [hlast] at hraw
        cases hraw
        rw [readField_override hos hb hw] at ho
        obtain ⟨y, hy, rfl⟩ := Outcome.map_eq_ok_iff.1 ho
        rw [hx]
        exact ⟨v, hv, Located.value_eq_ok_congr rfl hy⟩

/-- The variable of a field that is given a value can be coerced. -/
theorem Binding.Reads.coerced (h : b.Reads pairs file base x) : ∃ v, b.coerced pairs = .ok v := by
  unfold Binding.Reads at h
  cases hlast : lastValue? pairs b.key with
  | none => exact ⟨none, Binding.coerced_eq_ok_none_iff.2 hlast⟩
  | some raw =>
    rw [hlast] at h
    obtain ⟨v, hv, -⟩ := h
    exact ⟨some v, Binding.coerced_eq_ok_some_iff.2 ⟨raw, hlast, hv⟩⟩

end Fields

namespace Loader

variable {fs : FileSystem} {l : Loader} {pairs : List (String × String)} {v w : Walk}

/-- What every field is given makes up the configuration of a load. -/
theorem outcome_of_reads {base : Tree} {file : Option String} (hbase : base.Sectional)
    (htree : l.fileTree fs w = .ok (base, file)) {d : Configuration}
    (h : ∀ b ∈ Binding.table, b.Reads pairs file base (Field.get d b.field)) : (l.loadFrom fs pairs w).outcome = .ok d := by
  obtain ⟨os, hos⟩ := exists_collectOverrides_iff.2 fun b hb => (h b hb).coerced
  refine outcome_eq_ok_iff.2 ⟨os, base, file, hos, htree, readConfiguration_eq_ok_iff.2 fun f => ?_⟩
  obtain ⟨b, hb, rfl⟩ := Binding.exists_mem_table f
  exact (Binding.reads_iff hbase hos hb).1 (h b hb)

/-- **A load gives each field** what the last value of its variable gives, or else what the file does. -/
theorem outcome_eq_ok_iff_fields (hl : l.Sectioned fs) {d : Configuration} : (l.loadFrom fs pairs w).outcome = .ok d ↔
    ∃ base file, l.fileTree fs w = .ok (base, file) ∧
      ∀ b ∈ Binding.table, b.Reads pairs file base (Field.get d b.field) := by
  constructor
  · rw [outcome_eq_ok_iff]
    rintro ⟨os, base, file, hos, hbase, h⟩
    refine ⟨base, file, hbase, fun b hb => ?_⟩
    apply (Binding.reads_iff (sectional_of_fileTree hl hbase) hos hb).2
    exact readConfiguration_eq_ok_iff.1 h b.field
  · rintro ⟨base, file, hbase, h⟩
    exact outcome_of_reads (sectional_of_fileTree hl hbase) hbase h

/-- Nothing is read from the empty tree. -/
theorem readField_empty (file : Option String) (f : Field) : readField file .empty f = .ok none := by
  rw [Tree.sectional_empty.readField, Tree.at?_empty_of_ne_nil f.path_ne_nil]

/-- Without a file and variables a load gives the defaults. -/
theorem outcome_default (fs : FileSystem) (w : Walk) : (loadFrom fs {} [] w).outcome = .ok .default := by
  refine (outcome_eq_ok_iff_fields (sectioned_of_none rfl)).2 ⟨_, _, fileTree_of_none rfl w, fun b _ => ?_⟩
  exact ⟨none, readField_empty none b.field, rfl⟩

theorem eq_of_key_eq {b b' : Binding} (hb : b ∈ Binding.table) (hb' : b' ∈ Binding.table) (h : b.key = b'.key) :
    b = b' := by
  have := Binding.find?_of_mem hb
  rw [h, Binding.find?_of_mem hb'] at this
  exact (Option.some.inj this).symm

/-- **A variable by itself** gives its field a value, and all others their defaults. -/
theorem outcome_single_iff {b : Binding} (hb : b ∈ Binding.table) {raw : String} {e : Configuration} :
    (loadFrom fs {} [(b.key, raw)] w).outcome = .ok e ↔
      b.Gives raw (Field.get e b.field) ∧ ∀ f ≠ b.field, Field.get e f = Field.get .default f := by
  have hlast : lastValue? [(b.key, raw)] b.key = some raw := by
    simp [lastValue?]
  have hother : ∀ a ∈ Binding.table, a ≠ b → lastValue? [(b.key, raw)] a.key = none := by
    intro a ha hne
    have hkey : b.key ≠ a.key := fun h => hne (eq_of_key_eq hb ha h).symm
    simp [lastValue?, hkey]
  rw [outcome_eq_ok_iff_fields (sectioned_of_none rfl)]
  constructor
  · rintro ⟨base, file, hbase, h⟩
    rw [fileTree_of_none rfl w] at hbase
    cases hbase
    refine ⟨?_, fun f hf => ?_⟩
    · have := h b hb
      rwa [Binding.Reads, hlast] at this
    · obtain ⟨a, ha, rfl⟩ := Binding.exists_mem_table f
      have := h a ha
      rw [Binding.Reads, hother a ha fun h => hf (by rw [h])] at this
      obtain ⟨o, ho, hx⟩ := this
      rw [readField_empty] at ho
      cases ho
      exact hx
  · rintro ⟨hgives, hrest⟩
    refine ⟨_, _, fileTree_of_none rfl w, fun a ha => ?_⟩
    unfold Binding.Reads
    by_cases hab : a = b
    · subst hab
      rw [hlast]
      exact hgives
    · rw [hother a ha hab]
      exact ⟨none, readField_empty none a.field, hrest a.field fun h => hab (eq_of_field_eq ha hb h)⟩

/-- A variable can be loaded by itself exactly if it gives its field a value. -/
theorem exists_outcome_single_iff {b : Binding} (hb : b ∈ Binding.table) {raw : String} :
    (∃ e, (loadFrom fs {} [(b.key, raw)] w).outcome = .ok e) ↔ ∃ x, b.Gives raw x := by
  constructor
  · rintro ⟨e, he⟩
    exact ⟨_, ((outcome_single_iff hb).1 he).1⟩
  · rintro ⟨x, hx⟩
    refine ⟨Field.set .default b.field x, (outcome_single_iff hb).2 ⟨?_, fun f hf => ?_⟩⟩
    · rwa [Field.get_set]
    · exact Field.get_set_of_ne _ _ hf

theorem Gives.unique {b : Binding} {raw : String} {x y : b.field.Value} (hx : b.Gives raw x) (hy : b.Gives raw y) :
    x = y := by
  obtain ⟨v, hv, hx⟩ := hx
  obtain ⟨w, hw, hy⟩ := hy
  rw [hv] at hw
  cases hw
  rw [hx] at hy
  cases hy
  rfl

/-- **Layering is pointwise.** Over a file whose sections are tables and that can be loaded by itself, a load succeeds
    exactly if every variable that occurs can be loaded by itself with its last value. Each field is then what that
    load gives it, or what the file gives where the variable does not occur. In what orders the loads go through tables is no
    matter. -/
theorem load_pointwise {c : Configuration} (hl : l.Sectioned fs) (hc : (l.loadFrom fs [] v).outcome = .ok c)
    (pairs : List (String × String)) (u w : Walk) :
    ((∃ d, (l.loadFrom fs pairs u).outcome = .ok d) ↔ ∀ b ∈ Binding.table, ∀ raw, lastValue? pairs b.key = some raw →
      ∃ e, (loadFrom fs {} [(b.key, raw)] w).outcome = .ok e) ∧
    (∀ d, (l.loadFrom fs pairs u).outcome = .ok d → ∀ b ∈ Binding.table,
      (∀ raw, lastValue? pairs b.key = some raw →
        ∃ e, (loadFrom fs {} [(b.key, raw)] w).outcome = .ok e ∧ Field.get d b.field = Field.get e b.field) ∧
      (lastValue? pairs b.key = none → Field.get d b.field = Field.get c b.field)) ∧
    (l.file = none → c = .default) := by
  obtain ⟨base, file, hbase, hfields⟩ := (outcome_eq_ok_iff_fields hl).1 (outcome_of_walk hl.apart hc u)
  refine ⟨⟨?_, ?_⟩, ?_, ?_⟩
  · rintro ⟨d, hd⟩ b hb raw hraw
    obtain ⟨base', file', hbase', h⟩ := (outcome_eq_ok_iff_fields hl).1 hd
    have hreads := h b hb
    rw [Binding.Reads, hraw] at hreads
    exact (exists_outcome_single_iff hb).2 ⟨_, hreads⟩
  · intro h
    have hx : ∀ f, ∃ x : f.Value, ∀ b ∈ Binding.table, ∀ hf : f = b.field, b.Reads pairs file base (hf ▸ x) := by
      intro f
      obtain ⟨b, hb, rfl⟩ := Binding.exists_mem_table f
      have hreads : ∃ x, b.Reads pairs file base x := by
        unfold Binding.Reads
        cases hraw : lastValue? pairs b.key with
        | some raw => exact (exists_outcome_single_iff hb).1 (h b hb raw hraw)
        | none => exact ⟨_, hfields b hb⟩
      obtain ⟨x, hx⟩ := hreads
      refine ⟨x, fun a ha hf => ?_⟩
      obtain rfl := eq_of_field_eq hb ha hf
      exact hx
    obtain ⟨d, hd⟩ := Configuration.exists_forall_get hx
    exact ⟨d, (outcome_eq_ok_iff_fields hl).2 ⟨base, file, hbase, fun b hb => hd b.field b hb rfl⟩⟩
  · intro d hd b hb
    obtain ⟨base', file', hbase', h⟩ := (outcome_eq_ok_iff_fields hl).1 hd
    rw [hbase] at hbase'
    cases hbase'
    have hreads := h b hb
    refine ⟨fun raw hraw => ?_, fun hnone => ?_⟩
    · rw [Binding.Reads, hraw] at hreads
      obtain ⟨e, he⟩ : ∃ e, (loadFrom fs {} [(b.key, raw)] w).outcome = .ok e :=
        (exists_outcome_single_iff hb).2 ⟨_, hreads⟩
      exact ⟨e, he, Gives.unique hreads ((outcome_single_iff hb).1 he).1⟩
    · rw [Binding.Reads, hnone] at hreads
      obtain ⟨o, ho, hd⟩ := hreads
      obtain ⟨o', ho', hc⟩ := hfields b hb
      rw [ho] at ho'
      cases ho'
      rw [hd, hc]
  · intro hnone
    obtain rfl : l = {} := by cases l; cases hnone; rfl
    rw [outcome_default] at hc
    cases hc
    rfl

/-- A file system with one regular file, which sets two fields of different sections. -/
def oneFile : FileSystem :=
  .single "[server]\nport = 9\n[logging]\nlevel = \"WARN\"\n".toList

/-- A variable for the one field leaves the other as the file has it. -/
theorem load_pointwise_oneFile : ∃ d, (loadFrom oneFile ⟨some [99]⟩ [("SERVER_PORT", "80")]).outcome = .ok d ∧
    d.server.port = 80 ∧ d.logging.level = "WARN" := by
  have hl : Loader.Sectioned oneFile ⟨some [99]⟩ := by
    decide +kernel
  have hc : (loadFrom oneFile ⟨some [99]⟩ []).outcome =
      .ok { Configuration.default with server.port := 9, logging.level := "WARN" } := by
    decide +kernel
  have hlast : ∀ b ∈ Binding.table, lastValue? [("SERVER_PORT", "80")] b.key =
      if b.field = .serverPort then some "80" else none := by
    decide +kernel
  have hport : (loadFrom oneFile {} [("SERVER_PORT", "80")]).outcome =
      .ok { Configuration.default with server.port := 80 } := by
    decide +kernel
  obtain ⟨hiff, hfields, -⟩ := load_pointwise hl hc [("SERVER_PORT", "80")] {} {}
  obtain ⟨d, hd⟩ := hiff.2 fun b hb raw hraw => by
    rw [hlast b hb] at hraw
    split at hraw
    next hf =>
      cases hraw
      obtain rfl := eq_of_field_eq hb (by decide : ⟨"SERVER_PORT", .serverPort⟩ ∈ Binding.table) hf
      exact ⟨_, hport⟩
    · cases hraw
  refine ⟨d, hd, ?_, ?_⟩
  · obtain ⟨e, he, hde⟩ := (hfields d hd ⟨"SERVER_PORT", .serverPort⟩ (by decide)).1 "80" rfl
    rw [hport] at he
    cases he
    exact hde
  · exact (hfields d hd ⟨"LOGGING_LEVEL", .loggingLevel⟩ (by decide)).2 rfl

end Loader

end AuthProxy
