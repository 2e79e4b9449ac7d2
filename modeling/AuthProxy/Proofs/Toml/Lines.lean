import AuthProxy.Proofs.Configuration.Paths
import AuthProxy.Proofs.Toml.Statements

/-!
# The lines of a written configuration

A written configuration is read as a header for each section that has fields of its own, and an assignment for each field that has
a value (`reads_write`).
-/

namespace AuthProxy.Toml

/-- The fields that a section has itself. -/
def ownFields (s : Section) : List Field :=
  Field.all.filter (·.owner = s)

/-- The statements of a section whose fields have some values: nothing, if it has no fields of its own. -/
def sectionStatements (values : Field → Option Value) (s : Section) : List Statement :=
  match ownFields s with
  | [] => []
  | fields => .table s.path :: fields.filterMap fun f => (values f).map (.assign [f.key])

/-- The value of a field of a configuration, if it is to be written. -/
def fieldValue? (c : Configuration) (f : Field) : Option Value :=
  valueOf? f.kind (Field.get c f)

theorem isBare_key (f : Field) : IsBare f.key := by
  have hall : ∀ f ∈ Field.all, IsBare f.key := by
    decide +kernel
  exact hall f f.mem_all

/-- The path of a section with fields of its own can be a header. -/
theorem path_of_ownFields {s : Section} (h : ownFields s ≠ []) :
    s.path ≠ [] ∧ s.path.length ≤ nestingLimit ∧ ∀ k ∈ s.path, IsBare k := by
  have hall : ∀ s ∈ Section.all, ownFields s ≠ [] →
      s.path ≠ [] ∧ s.path.length ≤ nestingLimit ∧ ∀ k ∈ s.path, IsBare k := by
    decide +kernel
  exact hall s s.mem_all h

variable {c : Configuration} {r : List Char} {sts : List Statement}

theorem reads_fields (hr : Reads r sts) (fs : List Field) : Reads ((fs.filterMap (writeField? c)).flatten ++ r)
    ((fs.filterMap fun f => (fieldValue? c f).map (.assign [f.key])) ++ sts) := by
  induction fs with
  | nil => exact hr
  | cons f fs ih =>
    have hvalue := writesValue_writeValue? f.kind (Field.get c f)
    rw [List.filterMap_cons, List.filterMap_cons, writeField?, fieldValue?]
    cases ht : writeValue? f.kind (Field.get c f) with
    | none =>
      rw [ht] at hvalue
      cases hv : valueOf? f.kind (Field.get c f) with
      | none => exact ih
      | some v =>
        rw [hv] at hvalue
        cases hvalue
    | some t =>
      rw [ht] at hvalue
      cases hv : valueOf? f.kind (Field.get c f) with
      | none =>
        rw [hv] at hvalue
        cases hvalue
      | some v =>
        rw [hv] at hvalue
        obtain ⟨hvalue⟩ := hvalue
        have hline := Reads.cons (writesStatement_assign (isBare_key f) hvalue) ih
        have htext : ((f.key.toList ++ " = ".toList ++ t ++ ['\n']) :: fs.filterMap (writeField? c)).flatten ++ r =
            f.key.toList ++ " = ".toList ++ t ++ '\n' :: ((fs.filterMap (writeField? c)).flatten ++ r) := by
          simp only [List.flatten_cons, List.append_assoc, List.cons_append, List.nil_append]
        exact htext ▸ hline

/-- **The table of a section** is a header and the assignments to its fields. -/
theorem reads_section (hr : Reads r sts) (s : Section) :
    Reads ((writeSection? c s).getD [] ++ r) (sectionStatements (fieldValue? c) s ++ sts) := by
  have hown : Field.all.filter (·.owner = s) = ownFields s := rfl
  rw [writeSection?, sectionStatements, hown]
  cases hfields : ownFields s with
  | nil => exact hr
  | cons f fs =>
    obtain ⟨hne, hlength, hbare⟩ := path_of_ownFields (s := s) (by rw [hfields]; exact List.cons_ne_nil f fs)
    have hlines := Reads.cons (writesStatement_header hne hlength hbare) (reads_fields (c := c) hr (f :: fs))
    have htext : writeHeader s = '[' :: pathText s.path ++ [']'] ++ ['\n'] := by
      simp [writeHeader, pathText]
    dsimp only
    rw [Option.getD_some, htext, List.append_assoc, List.append_assoc, List.singleton_append]
    exact hlines

/-- Sections with a blank line between each two. -/
theorem reads_sections (ss : List Section) : Reads (['\n'].intercalate (ss.filterMap (writeSection? c)))
    (ss.flatMap (sectionStatements (fieldValue? c))) := by
  induction ss with
  | nil => exact reads_nil
  | cons s ss ih =>
    rw [List.filterMap_cons, List.flatMap_cons]
    cases ht : writeSection? c s with
    | none =>
      have := reads_section (c := c) ih s
      rwa [ht, Option.getD_none, List.nil_append] at this
    | some t =>
      dsimp only
      cases hts : ss.filterMap (writeSection? c) with
      | nil =>
        have := reads_section (c := c) ih s
        rw [ht, hts, Option.getD_some, List.intercalate_nil, List.append_nil] at this
        rwa [List.intercalate_singleton]
      | cons t' ts =>
        have := reads_section (c := c) ih.blank s
        rw [ht, hts, Option.getD_some] at this
        rw [List.intercalate_cons_cons, List.append_assoc]
        exact this

/-- **A written configuration** is read as the statements on its sections and fields. -/
theorem reads_write (c : Configuration) : Reads (write c) (Section.all.flatMap (sectionStatements (fieldValue? c))) :=
  reads_sections Section.all

end AuthProxy.Toml
