import AuthProxy.Loading.Loader
import AuthProxy.Proofs.Binding.Override
import AuthProxy.Proofs.Layer.Orders
import AuthProxy.Proofs.Layer.Values

/-!
# The layers of a load

A load reads a configuration from the tree of the file (`Loader.outcome_eq`) with the overrides put into it. Where sections are
tables, an override settles its own field (`readField_override`) and leaves the others as the file has them
(`readField_of_not_overridden`).
-/

namespace AuthProxy

open Layer Text

/-- The tree that the file of a loader makes when its keys are put in the order of a walk, with the name of the file; the empty tree
    where there is no file. -/
def Loader.fileTree (fs : FileSystem) (l : Loader) (walk : Walk) : Outcome Fault (Tree × Option String) :=
  match l.file with
  | none => .ok (.empty, none)
  | some path => do
    let layer ← Sources.fileLayer fs path
    let base ← Sources.base fs walk ⟨some layer, []⟩
    .ok (base, some (fs.shownPath layer.name))

/-- The document in the file of a loader, if there is one that can be read. -/
def Loader.document? (fs : FileSystem) (l : Loader) : Option Toml.Table := do
  let path ← l.file
  let layer ← (Sources.fileLayer fs path).toOption
  (Sources.readFile fs layer).toOption

/-- The grammar of documents accepts the file of a loader, as a document whose integers may be of any size. -/
def Loader.Parses (fs : FileSystem) (l : Loader) (t : Toml.Table) : Prop :=
  ∃ path name content, l.file = some path ∧ decodeUtf8? path = some name ∧ fs.regular? path = some (.ok content) ∧
    Toml.parse? (Sources.textOfContent content) = some t

/-- The document in the file of a loader has plain keys at the top and tables for its sections. -/
def Loader.Sectioned (fs : FileSystem) (l : Loader) : Prop :=
  ∀ t ∈ l.document? fs, Toml.Sectioned t

instance (fs : FileSystem) (l : Loader) : Decidable (l.Sectioned fs) :=
  inferInstanceAs (Decidable (∀ t ∈ l.document? fs, Toml.Sectioned t))

/-- The document in the file of a loader has keys at the top that lead to places apart from each other. -/
def Loader.Apart (fs : FileSystem) (l : Loader) : Prop :=
  ∀ t ∈ l.document? fs, Toml.Apart t

instance (fs : FileSystem) (l : Loader) : Decidable (l.Apart fs) :=
  inferInstanceAs (Decidable (∀ t ∈ l.document? fs, Toml.Apart t))

/-- The document in the file of a loader has a key that leads into a list which memory does not hold. -/
def Loader.OutOfRoom (fs : FileSystem) (l : Loader) : Prop :=
  ∃ t ∈ l.document? fs, Sources.fits fs.room t = false

instance (fs : FileSystem) (l : Loader) : Decidable (l.OutOfRoom fs) :=
  inferInstanceAs (Decidable (∃ t ∈ l.document? fs, Sources.fits fs.room t = false))

namespace Sources

variable {t : Tree} {os : List Override}

theorem not_isTable_overrideTree (v : CoercedValue) : ¬ (overrideTree v).IsTable := by
  cases v <;> rintro ⟨b, es, h⟩ <;> cases h

theorem override_cons (t : Tree) (o : Override) (os : List Override) : override t (o :: os) =
    override (.putAt (Tree.keys o.binding.field.path) (overrideTree o.value) t) os := rfl

theorem override_append (t : Tree) (os os' : List Override) :
    override t (os ++ os') = override (override t os) os' :=
  List.foldl_append

/-- Overrides leave the sections tables. -/
theorem sectional_override (h : t.Sectional) (os : List Override) : (override t os).Sectional := by
  induction os generalizing t with
  | nil => exact h
  | cons o os ih => exact ih (h.putAt o.binding.field (overrideTree o.value))

/-- Overrides are values that are put at the paths of their fields. -/
theorem override_eq_putAll (t : Tree) (os : List Override) :
    override t os = .putAll (os.map fun o => (o.binding.field.path, overrideTree o.value)) t := by
  rw [Tree.putAll, List.foldl_map]
  rfl

/-- The paths of overrides part from each other. -/
theorem pairwise_parts (hos : (os.map (·.binding.field)).Nodup) :
    os.Pairwise fun o o' => Parts o.binding.field.path o'.binding.field.path := by
  rw [List.Nodup, List.pairwise_map] at hos
  exact hos.imp Field.parts_of_ne

/-- Paths that part from those of the overrides lead where they did. -/
theorem at?_override_of_parts {q : List String} (h : ∀ o ∈ os, Parts o.binding.field.path q) (t : Tree) :
    (override t os).at? q = t.at? q := by
  rw [override_eq_putAll]
  refine Tree.at?_putAll_of_parts ?_ t
  rw [List.forall_mem_map]
  exact h

/-- A field that is not overridden stays as it was. -/
theorem at?_override_of_not_mem {f : Field} (h : f ∉ os.map (·.binding.field)) :
    (override t os).at? f.path = t.at? f.path := by
  refine at?_override_of_parts (fun o ho => Field.parts_of_ne ?_) t
  rintro rfl
  exact h (List.mem_map_of_mem ho)

/-- A field that is overridden once has the value of its override. -/
theorem at?_override_of_mem (hnodup : (os.map (·.binding.field)).Nodup) {o : Override} (ho : o ∈ os) :
    (override t os).at? o.binding.field.path = some (overrideTree o.value) := by
  rw [override_eq_putAll]
  have hput := Tree.at?_putAll_of_mem (List.pairwise_map.2 (pairwise_parts hnodup))
    (List.mem_map_of_mem (f := fun o : Override => (o.binding.field.path, overrideTree o.value)) ho) t
  rwa [Tree.put_of_not_isTable (not_isTable_overrideTree _)] at hput

/-- Overrides make the same mapping of trees that are the same. -/
theorem same_override {u : Tree} (h : t.Same u) (hnodup : (os.map (·.binding.field)).Nodup) :
    (override t os).Same (override u os) := by
  rw [override_eq_putAll, override_eq_putAll]
  refine h.putAll (List.pairwise_map.2 (pairwise_parts hnodup)) ?_
  rw [List.forall_mem_map]
  exact fun o _ => not_isTable_overrideTree o.value

end Sources

/-! ## Fields under overrides -/

section Fields

variable {pairs : List (String × String)} {os : List Override} {base : Tree} {b : Binding} {v : CoercedValue}

/-- **An override settles its field**, whatever the file has there and around it. -/
theorem readField_override (hos : collectOverrides pairs = .ok os) (hb : b ∈ Binding.table)
    (hv : b.coerced pairs = .ok (some v)) (file : Option String) : readField file (Sources.override base os) b.field =
      some <$> Located.value file ⟨Sources.overrideTree v, b.field.dotted⟩ b.field.kind := by
  have hmem : (⟨b, v⟩ : Override) ∈ os := (mem_of_collectOverrides hos ⟨b, v⟩).2 ⟨hb, hv⟩
  have hat : (Sources.override base os).at? b.field.path = some (Sources.overrideTree v) :=
    Sources.at?_override_of_mem (nodup_of_collectOverrides hos) hmem
  exact readField_of_at? hat file

theorem eq_of_field_eq {b b' : Binding} (hb : b ∈ Binding.table) (hb' : b' ∈ Binding.table) (h : b.field = b'.field) :
    b = b' := by
  have hall : ∀ b ∈ Binding.table, ∀ b' ∈ Binding.table, b.field = b'.field → b = b' := by
    decide +kernel
  exact hall b hb b' hb' h

/-- There is no override of a field whose variable does not occur. -/
theorem field_not_mem_of_coerced_none (hos : collectOverrides pairs = .ok os) (hb : b ∈ Binding.table)
    (hv : b.coerced pairs = .ok none) : b.field ∉ os.map (·.binding.field) := by
  intro h
  obtain ⟨o, ho, hf⟩ := List.mem_map.1 h
  obtain ⟨htable, hcoerced⟩ := (mem_of_collectOverrides hos o).1 ho
  rw [eq_of_field_eq htable hb hf, hv] at hcoerced
  cases hcoerced

/-- **A field whose variable does not occur** is read from the file alone. -/
theorem readField_of_not_overridden (hbase : base.Sectional) (hos : collectOverrides pairs = .ok os)
    (hb : b ∈ Binding.table) (hv : b.coerced pairs = .ok none) (file : Option String) :
    readField file (Sources.override base os) b.field = readField file base b.field := by
  have hmem := field_not_mem_of_coerced_none hos hb hv
  rw [(Sources.sectional_override hbase os).readField, hbase.readField, Sources.at?_override_of_not_mem hmem]

end Fields

/-! ## The end of a load -/

namespace Loader

variable {fs : FileSystem} {l : Loader} {pairs : List (String × String)} {v w : Walk} {base : Tree} {file : Option String}

/-- Without a file there are no values but the overrides. -/
theorem fileTree_of_none (h : l.file = none) (w : Walk) : l.fileTree fs w = .ok (.empty, none) := by
  rw [fileTree, h]

/-- What a document leads to, or the reason that there is none. -/
theorem fileTree_cases (fs : FileSystem) (l : Loader) (w : Walk) :
    (l.file = none ∧ l.fileTree fs w = .ok (.empty, none)) ∨
    (∃ t ∈ l.document? fs, Sources.fits fs.room t = true ∧
      ∃ file, l.fileTree fs w = .ok (Sources.treeOfFile (w.keys t), file)) ∨
    (l.OutOfRoom fs ∧ l.fileTree fs w = .error .crash) ∨
    l.document? fs = none ∧ ∃ cause, l.fileTree fs w = report cause := by
  cases hpath : l.file with
  | none => exact .inl ⟨rfl, fileTree_of_none hpath w⟩
  | some path =>
    right
    have hdocument : l.document? fs =
        (Sources.fileLayer fs path).toOption.bind fun layer => (Sources.readFile fs layer).toOption := by
      rw [document?, hpath]
      rfl
    rw [OutOfRoom, hdocument, fileTree, hpath]
    dsimp only
    rcases hlayer : Sources.fileLayer fs path with (cause | _) | layer
    · exact .inr (.inr ⟨rfl, cause, rfl⟩)
    · unfold Sources.fileLayer at hlayer
      dsimp only at hlayer
      split at hlayer <;> cases hlayer
    · simp only [Except.toOption, Option.bind_some, bind, Except.bind, Sources.base]
      cases Sources.readFile fs layer with
      | error misfit => exact .inr (.inr ⟨rfl, .misfit misfit, rfl⟩)
      | ok t =>
        dsimp only
        cases hfits : Sources.fits fs.room t with
        | true => exact .inl ⟨t, rfl, hfits, _, rfl⟩
        | false => exact .inr (.inl ⟨⟨t, rfl, hfits⟩, rfl⟩)

/-- Without a key that leads out of room a file with a document makes the tree of the document. -/
theorem fileTree_of_document? {t : Toml.Table} (h : l.document? fs = some t) (hfits : Sources.fits fs.room t = true) (w : Walk) :
    ∃ file, l.fileTree fs w = .ok (Sources.treeOfFile (w.keys t), file) := by
  rcases fileTree_cases fs l w with ⟨hnone, -⟩ | ⟨t', ht', -, htree⟩ | ⟨⟨t', ht', hroom⟩, -⟩ | ⟨hnone, -⟩
  · rw [document?, hnone] at h
    cases h
  · cases h.symm.trans ht'
    exact htree
  · cases h.symm.trans ht'
    rw [hfits] at hroom
    cases hroom
  · rw [hnone] at h
    cases h

/-- The tree of a file is that of its document, and there is none without a file. -/
theorem eq_of_fileTree (h : l.fileTree fs w = .ok (base, file)) :
    (l.file = none ∧ base = .empty) ∨ ∃ t ∈ l.document? fs, base = Sources.treeOfFile (w.keys t) := by
  rcases fileTree_cases fs l w with ⟨hnone, htree⟩ | ⟨t, ht, -, file', htree⟩ | ⟨-, htree⟩ | ⟨-, cause, htree⟩ <;>
    rw [htree] at h <;> cases h
  · exact .inl ⟨hnone, rfl⟩
  · exact .inr ⟨t, ht, rfl⟩

/-- A load crashes over a file only where memory does not hold the lists that its keys lead into. -/
theorem fileTree_eq_crash_iff : l.fileTree fs w = .error .crash ↔ l.OutOfRoom fs := by
  rcases fileTree_cases fs l w with ⟨hnone, htree⟩ | ⟨t, ht, hfits, file, htree⟩ | ⟨hroom, htree⟩ | ⟨hnone, cause, htree⟩
  · rw [htree]
    refine iff_of_false Outcome.ok_ne_crash ?_
    rintro ⟨t, ht, -⟩
    rw [document?, hnone] at ht
    cases ht
  · rw [htree]
    refine iff_of_false Outcome.ok_ne_crash ?_
    rintro ⟨t', ht', hroom⟩
    cases Option.mem_unique ht ht'
    rw [hfits] at hroom
    cases hroom
  · exact iff_of_true htree hroom
  · rw [htree]
    refine iff_of_false Outcome.report_ne_crash ?_
    rintro ⟨t, ht, -⟩
    rw [hnone] at ht
    cases ht

/-- What is wrong with a file does not depend on the order of its keys. -/
theorem fileTree_error_of_walk {stop : Stop Fault} (h : l.fileTree fs v = .error stop) (w : Walk) :
    l.fileTree fs w = .error stop := by
  unfold fileTree at h ⊢
  split at h
  · cases h
  · rcases Outcome.bind_eq_error_iff.1 h with h | ⟨layer, hlayer, h⟩
    · exact Outcome.bind_eq_error_iff.2 (.inl h)
    · refine Outcome.bind_eq_error_iff.2 (.inr ⟨layer, hlayer, ?_⟩)
      rcases Outcome.bind_eq_error_iff.1 h with h | ⟨_, -, h⟩
      · refine Outcome.bind_eq_error_iff.2 (.inl ?_)
        unfold Sources.base at h ⊢
        dsimp only at h ⊢
        split at h
        · split at h
          · cases h
          next hfits => rwa [if_neg hfits]
        · exact h
      · cases h

/-- **The document in a file** is what the grammar accepts, if its integers fit 64 bits. -/
theorem document?_eq_some_iff {t : Toml.Table} :
    l.document? fs = some t ↔ l.Parses fs t ∧ Toml.integersFitEntries t = true := by
  constructor
  · intro h
    obtain ⟨path, hpath, h⟩ := Option.bind_eq_some_iff.1 h
    obtain ⟨layer, hlayer, h⟩ := Option.bind_eq_some_iff.1 h
    unfold Sources.fileLayer at hlayer
    dsimp only at hlayer
    split at hlayer
    · cases hlayer
    · cases hlayer
    next content name hregular hname =>
      cases hlayer
      unfold Sources.readFile at h
      dsimp only at h
      cases content with
      | error reason => cases h
      | ok content =>
        dsimp only at h
        split at h
        next table htable =>
          cases h
          obtain ⟨hparse, hfit⟩ := Option.filter_eq_some_iff.1 htable
          exact ⟨⟨path, name, content, hpath, hname, hregular, hparse⟩, hfit⟩
        · cases h
  · rintro ⟨⟨path, name, content, hpath, hname, hregular, hparse⟩, hfit⟩
    have hdocument : Sources.documentOf? content = some t := Option.filter_eq_some_iff.2 ⟨hparse, hfit⟩
    simp [document?, hpath, Sources.fileLayer, hregular, hname, Except.toOption, Sources.readFile, hdocument]

/-- The keys of a document that was read from a file are distinct. -/
theorem distinct_of_document? {t : Toml.Table} (h : l.document? fs = some t) : (Toml.Value.table t).Distinct := by
  obtain ⟨⟨_, _, _, -, -, -, hparse⟩, -⟩ := document?_eq_some_iff.1 h
  exact Toml.distinct_of_parse? hparse

theorem Sectioned.apart (h : l.Sectioned fs) : l.Apart fs :=
  fun t ht => (distinct_of_document? ht).apart (h t ht).1

/-- A loader without a file has no keys that could meet, and no sections that could be anything but tables. -/
theorem sectioned_of_none (h : l.file = none) : l.Sectioned fs := by
  intro t ht
  rw [document?, h] at ht
  cases ht

/-- **A file whose keys are apart** makes the same mapping in any order of its keys. -/
theorem exists_same_fileTree (hl : l.Apart fs) (h : l.fileTree fs v = .ok (base, file)) (w : Walk) :
    ∃ base', l.fileTree fs w = .ok (base', file) ∧ base.Same base' := by
  unfold fileTree at h ⊢
  split at h
  · cases h
    exact ⟨.empty, rfl, .refl _⟩
  next path hpath =>
    obtain ⟨layer, hlayer, h⟩ := Outcome.bind_eq_ok_iff.1 h
    obtain ⟨u, hu, h⟩ := Outcome.bind_eq_ok_iff.1 h
    cases h
    unfold Sources.base at hu
    dsimp only at hu
    split at hu
    next t ht =>
      have hdocument : l.document? fs = some t := by
        rw [document?, hpath]
        simp [hlayer, ht, Except.toOption]
      have hapart : Toml.Apart t := hl t hdocument
      rw [if_pos hapart.fits] at hu
      cases hu
      refine ⟨Sources.treeOfFile (w.keys t), ?_, ?_⟩
      · simp only [bind, Except.bind, hlayer, Sources.base, ht, if_pos hapart.fits]
      · exact (hapart.of_perm (w.perm t)).same_treeOfFile ((v.perm t).trans (w.perm t).symm)
    · cases hu

/-- The tree of a file with tables for sections has them too. -/
theorem sectional_of_fileTree (hl : l.Sectioned fs) (h : l.fileTree fs w = .ok (base, file)) : base.Sectional := by
  rcases eq_of_fileTree h with ⟨-, rfl⟩ | ⟨t, ht, rfl⟩
  · exact Tree.sectional_empty
  · exact (Sources.sectional_treeOfFile (hl t ht)).of_same ((hl.apart t ht).same_treeOfFile (w.perm t)).symm

theorem stopped_outcome (events : List Log.Event) (stop : Stop Fault) :
    (LoadResult.stopped events stop).outcome = .error (stop.map .ofFault) := by
  cases stop <;> rfl

/-- A load reads what its sources make up. -/
theorem outcome_eq_read (fs : FileSystem) (l : Loader) (pairs : List (String × String)) (w : Walk) :
    (l.loadFrom fs pairs w).outcome =
      Outcome.mapFault LoadFault.ofFault (Sources.ofVariables fs l.file pairs >>= Sources.read fs w) := by
  rw [loadFrom]
  cases Sources.ofVariables fs l.file pairs with
  | error stop => exact stopped_outcome [] stop
  | ok sources =>
    dsimp only
    change _ = Outcome.mapFault LoadFault.ofFault (Sources.read fs w sources)
    cases Sources.read fs w sources with
    | error stop => exact stopped_outcome _ stop
    | ok c => rfl

/-- **A load** collects the overrides, makes a tree of the file, puts the overrides into it, and reads the
    configuration that this writes. -/
theorem outcome_eq (fs : FileSystem) (l : Loader) (pairs : List (String × String)) (w : Walk) :
    (l.loadFrom fs pairs w).outcome = Outcome.mapFault LoadFault.ofFault (do
      let os ← collectOverrides pairs
      let (base, file) ← l.fileTree fs w
      (readConfiguration w.fields file (Sources.override base os)).mapFault .misfit) := by
  rw [outcome_eq_read]
  congr 1
  rw [Sources.ofVariables, fileTree]
  cases collectOverrides pairs with
  | error stop => rfl
  | ok os =>
    cases l.file with
    | none => rfl
    | some path =>
      dsimp only
      cases Sources.fileLayer fs path with
      | error stop => rfl
      | ok layer =>
        change Sources.read fs w ⟨some layer, os⟩ = _
        have hbase : Sources.base fs w ⟨some layer, os⟩ = Sources.base fs w ⟨some layer, []⟩ := rfl
        rw [Sources.read, hbase]
        simp only [bind, Except.bind]
        cases Sources.base fs w ⟨some layer, []⟩ <;> rfl

/-- A load that gives a configuration reads it from the tree of the file with all overrides in it. -/
theorem outcome_eq_ok_iff {c : Configuration} : (l.loadFrom fs pairs w).outcome = .ok c ↔
    ∃ os base file, collectOverrides pairs = .ok os ∧ l.fileTree fs w = .ok (base, file) ∧
      readConfiguration w.fields file (Sources.override base os) = .ok c := by
  rw [outcome_eq, Outcome.mapFault_eq_ok_iff, Outcome.bind_eq_ok_iff]
  constructor
  · rintro ⟨os, hos, h⟩
    obtain ⟨⟨base, file⟩, hbase, h⟩ := Outcome.bind_eq_ok_iff.1 h
    exact ⟨os, base, file, hos, hbase, Outcome.mapFault_eq_ok_iff.1 h⟩
  · rintro ⟨os, base, file, hos, hbase, h⟩
    refine ⟨os, hos, Outcome.bind_eq_ok_iff.2 ⟨(base, file), hbase, ?_⟩⟩
    exact Outcome.mapFault_eq_ok_iff.2 h

/-- A load crashes over an override, over a key of the file or over a value of the tree. -/
theorem outcome_eq_crash_iff : (l.loadFrom fs pairs w).outcome = .error .crash ↔
    collectOverrides pairs = .error .crash ∨
      ∃ os, collectOverrides pairs = .ok os ∧ (l.OutOfRoom fs ∨
        ∃ base file, l.fileTree fs w = .ok (base, file) ∧
          readConfiguration w.fields file (Sources.override base os) = .error .crash) := by
  rw [outcome_eq, Outcome.mapFault_eq_crash_iff, Outcome.bind_eq_error_iff]
  apply or_congr_right
  refine exists_congr fun os => and_congr_right' ?_
  rw [Outcome.bind_eq_error_iff, fileTree_eq_crash_iff]
  apply or_congr_right
  constructor
  · rintro ⟨⟨base, file⟩, hbase, h⟩
    exact ⟨base, file, hbase, Outcome.mapFault_eq_crash_iff.1 h⟩
  · rintro ⟨base, file, hbase, h⟩
    exact ⟨(base, file), hbase, Outcome.mapFault_eq_crash_iff.2 h⟩

/-- The fault of a load is that of a variable, or of the file, or a value that does not fit. -/
theorem outcome_eq_fault_iff {f : LoadFault} : (l.loadFrom fs pairs w).outcome = .error (.fault f) ↔
    ∃ cause, f = .ofFault cause ∧ (collectOverrides pairs = .error (.fault cause) ∨
      ∃ os, collectOverrides pairs = .ok os ∧ (l.fileTree fs w = .error (.fault cause) ∨
        ∃ base file misfit, l.fileTree fs w = .ok (base, file) ∧
          readConfiguration w.fields file (Sources.override base os) = .error (.fault misfit) ∧ cause = .misfit misfit)) := by
  rw [outcome_eq, Outcome.mapFault_eq_fault_iff]
  refine exists_congr fun cause => ?_
  rw [and_comm, eq_comm]
  apply and_congr_right'
  rw [Outcome.bind_eq_error_iff]
  apply or_congr_right
  refine exists_congr fun os => and_congr_right' ?_
  rw [Outcome.bind_eq_error_iff]
  apply or_congr_right
  constructor
  · rintro ⟨⟨base, file⟩, hbase, h⟩
    obtain ⟨misfit, hmisfit, rfl⟩ := Outcome.mapFault_eq_fault_iff.1 h
    exact ⟨base, file, misfit, hbase, hmisfit, rfl⟩
  · rintro ⟨base, file, misfit, hbase, hmisfit, rfl⟩
    exact ⟨(base, file), hbase, Outcome.mapFault_eq_fault_iff.2 ⟨misfit, hmisfit, rfl⟩⟩

/-- What is wrong with a file is no variable. -/
theorem fault_of_fileTree {cause : Fault} (h : l.fileTree fs w = .error (.fault cause)) :
    (∃ path, cause = .fileNotFound path) ∨ (∃ field value, cause = .invalidValue field value) ∨
      ∃ misfit, cause = .misfit misfit := by
  unfold fileTree at h
  split at h
  · cases h
  · rcases Outcome.bind_eq_error_iff.1 h with h | ⟨layer, -, h⟩
    · unfold Sources.fileLayer at h
      dsimp only at h
      split at h
      · cases h
        exact .inl ⟨_, rfl⟩
      · cases h
        exact .inr (.inl ⟨_, _, rfl⟩)
      · cases h
    · rcases Outcome.bind_eq_error_iff.1 h with h | ⟨_, -, h⟩
      · unfold Sources.base at h
        dsimp only at h
        split at h
        · split at h <;> cases h
        · cases h
          exact .inr (.inr ⟨_, rfl⟩)
      · cases h

/-- Where a variable cannot be coerced, the load stops for that reason before the file is looked at. -/
theorem loadFrom_of_error {stop : Stop Fault} (h : collectOverrides pairs = .error stop) (w : Walk) :
    l.loadFrom fs pairs w = .stopped [] stop := by
  rw [loadFrom, Sources.ofVariables, h]
  rfl

/-- A fault in a variable is the fault of the load. -/
theorem outcome_of_fault {cause : Fault} (h : collectOverrides pairs = .error (.fault cause)) :
    (l.loadFrom fs pairs w).outcome = .error (.fault (.ofFault cause)) := by
  rw [outcome_eq, h]
  rfl

end Loader

end AuthProxy
