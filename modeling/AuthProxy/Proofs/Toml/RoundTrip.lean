import AuthProxy.Proofs.Toml.Building
import AuthProxy.Proofs.Toml.Giving

/-!
# Written configurations read back

A written configuration is a document in which each field stands at its path (`exists_parse?`). So it gives the values of all
fields but those that are left out (`Documents.gives`), and the strict reader finds the configuration there
(`readConfiguration_write`).
-/

namespace AuthProxy.Toml

/-! ## The values of fields -/

/-- The value of a field is no table, and its integers fit 64 bits. -/
theorem tidy_valueOf? {k : Kind} {x : k.Value} {v : Value} (h : valueOf? k x = some v) : (Node.leaf v).Tidy :=
  .leaf (spells_valueOf? h).not_isTable (spells_valueOf? h).integersFit

/-- A field that is left out has no value, which is the default. -/
theorem default_of_fieldValue? {c : Configuration} {f : Field} (h : fieldValue? c f = none) :
    Field.get .default f = Field.get c f := by
  cases f with
  | upstreamConfigsFile =>
    cases hp : c.upstream.configsFile with
    | none => exact hp.symm
    | some s =>
      rw [fieldValue?, Field.get, hp] at h
      cases h
  | _ => cases h

/-! ## Whole documents -/

/-- The document of a configuration: each field stands at its path, and open tables lead there. -/
structure Documents (c : Configuration) (n : Node) : Prop where
  field : ∀ f, n.at? f.path = (fieldValue? c f).map .leaf
  sections : ∀ (s : Section) u, n.at? s.path = some u → u.Open
  tidy : n.Tidy

/-- A written configuration starts with a header. -/
theorem write_head (c : Configuration) : ∃ t, write c = '[' :: t := by
  have hroot : writeSection? c .root = none := rfl
  have hserver : ∃ t, writeSection? c .server = some ('[' :: t) := ⟨_, rfl⟩
  obtain ⟨t, ht⟩ := hserver
  rw [write, Section.all, List.filterMap_cons, hroot]
  dsimp only
  rw [List.filterMap_cons, ht]
  dsimp only
  cases List.filterMap (writeSection? c) _ with
  | nil => exact ⟨t, List.intercalate_singleton⟩
  | cons u us => exact ⟨_, by rw [List.intercalate_cons_cons, List.cons_append, List.cons_append]⟩

/-- **A written configuration is a document** of the configuration. -/
theorem exists_parse? (c : Configuration) :
    ∃ o es, parse? (write c) = some (Node.entriesToTable es) ∧ Documents c (.table o es) := by
  obtain ⟨n, hbuild, hfield, hsections, htidy⟩ := exists_build? fun _ _ hv => tidy_valueOf? hv
  obtain ⟨o, es, rfl, -⟩ := hsections .root n rfl
  refine ⟨o, es, ?_, ⟨hfield, hsections, htidy⟩⟩
  have hstatements := (reads_write c).statements?
  obtain ⟨t, ht⟩ := write_head c
  rw [ht] at hstatements ⊢
  change (statements? ('[' :: t)).bind _ = _
  rw [hstatements, Option.bind_some]
  change (build? [] .empty (Section.all.flatMap (sectionStatements (fieldValue? c)))).bind _ = _
  exact hbuild ▸ rfl

/-- What a written configuration gives: all fields but those that are left out. -/
def written (c : Configuration) (f : Field) : Option f.Value :=
  (fieldValue? c f).map fun _ => Field.get c f

/-- With the default of what is left out this is the configuration. -/
theorem getD_written (c : Configuration) (f : Field) : (written c f).getD (Field.get .default f) = Field.get c f := by
  rw [written]
  cases hv : fieldValue? c f with
  | none => exact default_of_fieldValue? hv
  | some v => rfl

/-- **The document of a configuration** gives the configuration. -/
theorem Documents.gives {c : Configuration} {o : Origin} {es : List (String × Node)} (h : Documents c (.table o es)) :
    Gives (Node.entriesToTable es) (written c) := by
  have hvalue : (Node.table o es).toValue = .table (Node.entriesToTable es) := by
    rw [Node.toValue]
  have hat : ∀ p, (Value.table (Node.entriesToTable es)).at? p = ((Node.table o es).at? p).map Node.toValue := by
    intro p
    rw [← hvalue, h.tidy.at?_toValue]
  refine ⟨?_, fun e he => ?_, fun s w hw => ?_, fun f => ?_, ?_⟩
  · rw [← hvalue]
    exact h.tidy.distinct.toValue
  · obtain - | ⟨-, bare, -⟩ := h.tidy
    rw [Node.entriesToTable_eq_map] at he
    obtain ⟨d, hd, rfl⟩ := List.mem_map.1 he
    exact bare d hd
  · rw [hat] at hw
    obtain ⟨m, hm, rfl⟩ := Option.map_eq_some_iff.1 hw
    obtain ⟨o', es', rfl, -⟩ := h.sections s m hm
    rw [Node.toValue]
    trivial
  · rw [hat, h.field, written]
    cases hv : fieldValue? c f with
    | none => exact .none
    | some v => exact .some (spells_valueOf? hv)
  · have hfit := h.tidy.integersFit
    rwa [hvalue, Value.integersFit] at hfit

/-- **The strict reader** takes every written configuration back. -/
theorem readConfiguration_write (c : Configuration) (order : Field.Order) : readConfiguration (write c) order = .ok c := by
  obtain ⟨o, es, hparse, hdoc⟩ := exists_parse? c
  exact hdoc.gives.readConfiguration hparse (fun f => (getD_written c f).symm) order

end AuthProxy.Toml
