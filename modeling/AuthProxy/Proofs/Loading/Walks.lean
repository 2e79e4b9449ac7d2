import AuthProxy.Proofs.Loading.Layers

/-!
# Loads in any order

Tables are gone through in an order that is drawn anew for every load. Over a file whose keys are apart the order decides nothing but
which field is come to first of those that cannot be read (`Loader.loadFrom_eq_or_fieldStops`), and any of these may be it
(`Loader.outcome_front`). In particular a configuration that is loaded is loaded in every order (`Loader.loadFrom_of_walk`).
-/

namespace AuthProxy

open Layer

/-- A walk that comes to a field first. -/
def Walk.front (w : Walk) (f : Field) : Walk :=
  { w with fields := .front f }

namespace Loader

variable {fs : FileSystem} {l : Loader} {pairs : List (String × String)} {v w : Walk} {os : List Override} {base : Tree}
  {file : Option String} {f : Field} {stop : Stop Misfit}

/-- A load comes to its fields, and one of them cannot be read. -/
def FieldStops (fs : FileSystem) (l : Loader) (pairs : List (String × String)) (w : Walk) (f : Field) (stop : Stop Misfit) : Prop :=
  ∃ os base file, collectOverrides pairs = .ok os ∧ l.fileTree fs w = .ok (base, file) ∧
    readField file (Sources.override base os) f = .error stop

/-- The end of a load that stops at a field. -/
def stoppedAt (stop : Stop Misfit) : Outcome LoadFault Configuration :=
  .error (stop.map fun misfit => .ofFault (.misfit misfit))

theorem outcome_of_readConfiguration (hos : collectOverrides pairs = .ok os) (hbase : l.fileTree fs w = .ok (base, file)) :
    (l.loadFrom fs pairs w).outcome = Outcome.mapFault (fun misfit => .ofFault (.misfit misfit))
      (readConfiguration w.fields file (Sources.override base os)) := by
  rw [outcome_eq, hos]
  simp only [bind, Except.bind, hbase]
  rcases readConfiguration w.fields file (Sources.override base os) with (_ | _) | _ <;> rfl

/-- **Any field that cannot be read** stops the load that comes to it first. -/
theorem outcome_front (h : FieldStops fs l pairs w f stop) : (l.loadFrom fs pairs (w.front f)).outcome = stoppedAt stop := by
  obtain ⟨os, base, file, hos, hbase, hf⟩ := h
  have hfront : l.fileTree fs (w.front f) = .ok (base, file) := hbase
  have hread : readConfiguration (w.front f).fields file (Sources.override base os) = .error stop :=
    readConfiguration_eq_error_iff.2 ⟨f, .head hf⟩
  rw [outcome_of_readConfiguration hos hfront, hread]
  rfl

/-- Over a file whose keys are apart a load reads the same tree in any order. -/
theorem FieldStops.of_walk (hl : l.Apart fs) (h : FieldStops fs l pairs v f stop) (w : Walk) : FieldStops fs l pairs w f stop := by
  obtain ⟨os, base, file, hos, hbase, hf⟩ := h
  obtain ⟨base', hbase', hsame⟩ := exists_same_fileTree hl hbase w
  refine ⟨os, base', file, hos, hbase', ?_⟩
  rwa [← Tree.readField_of_same (Sources.same_override hsame (nodup_of_collectOverrides hos))]

/-- Sources that are read alike are loaded alike. -/
theorem loadFrom_congr_read (h : ∀ s, Sources.ofVariables fs l.file pairs = .ok s → s.read fs v = s.read fs w) :
    l.loadFrom fs pairs v = l.loadFrom fs pairs w := by
  rw [loadFrom, loadFrom]
  cases hsources : Sources.ofVariables fs l.file pairs with
  | error stop => rfl
  | ok s =>
    dsimp only
    rw [h s hsources]

/-- What sources are read as is the end of their load. -/
theorem read_eq_of_outcome {s : Sources} (hsources : Sources.ofVariables fs l.file pairs = .ok s)
    (h : (l.loadFrom fs pairs v).outcome = (l.loadFrom fs pairs w).outcome) : s.read fs v = s.read fs w := by
  rw [outcome_eq_read, outcome_eq_read, hsources] at h
  change Outcome.mapFault _ (s.read fs v) = Outcome.mapFault _ (s.read fs w) at h
  revert h
  rcases s.read fs v with (_ | _) | _ <;> rcases s.read fs w with (_ | _) | _ <;> intro h <;> cases h <;> rfl

/-- Loads in two orders that end alike log alike. -/
theorem loadFrom_eq_of_outcome (h : (l.loadFrom fs pairs v).outcome = (l.loadFrom fs pairs w).outcome) :
    l.loadFrom fs pairs v = l.loadFrom fs pairs w :=
  loadFrom_congr_read fun _ hs => read_eq_of_outcome hs h

/-- **Two loads over a file whose keys are apart** do the same, or each of them stops at a field, for reasons that the fields
    give in either order. -/
theorem loadFrom_eq_or_fieldStops (hl : l.Apart fs) (pairs : List (String × String)) (v w : Walk) :
    l.loadFrom fs pairs v = l.loadFrom fs pairs w ∨ ∃ f g stop stop', f ≠ g ∧
      FieldStops fs l pairs v f stop ∧ FieldStops fs l pairs v g stop' ∧
      (l.loadFrom fs pairs v).outcome = stoppedAt stop ∧ (l.loadFrom fs pairs w).outcome = stoppedAt stop' := by
  cases hos : collectOverrides pairs with
  | error stop => exact .inl ((loadFrom_of_error hos v).trans (loadFrom_of_error hos w).symm)
  | ok os =>
    cases hbase : l.fileTree fs v with
    | error stop =>
      refine .inl (loadFrom_eq_of_outcome ?_)
      rw [outcome_eq, outcome_eq, hos]
      simp only [bind, Except.bind, hbase, fileTree_error_of_walk hbase w]
    | ok tree =>
      obtain ⟨base, file⟩ := tree
      obtain ⟨base', hbase', hsame⟩ := exists_same_fileTree hl hbase w
      have houtcome := outcome_of_readConfiguration hos hbase
      have houtcome' := outcome_of_readConfiguration hos hbase'
      rw [← Tree.readConfiguration_of_same (Sources.same_override hsame (nodup_of_collectOverrides hos))] at houtcome'
      rw [readConfiguration_eq_gather] at houtcome houtcome'
      rcases Configuration.gather_eq_or_error (readField file (Sources.override base os)) v.fields w.fields with
        h | ⟨f, g, stop, stop', hfg, hf, hg, hstop, hstop'⟩
      · rw [← h] at houtcome'
        exact .inl (loadFrom_eq_of_outcome (houtcome.trans houtcome'.symm))
      · rw [hstop] at houtcome
        rw [hstop'] at houtcome'
        exact .inr ⟨f, g, stop, stop', hfg, ⟨os, base, file, hos, hbase, hf⟩, ⟨os, base, file, hos, hbase, hg⟩, houtcome,
          houtcome'⟩

/-- **A configuration that is loaded** over a file whose keys are apart is loaded in every order, with the same events. -/
theorem loadFrom_of_walk (hl : l.Apart fs) {c : Configuration} (hc : (l.loadFrom fs pairs v).outcome = .ok c) (w : Walk) :
    l.loadFrom fs pairs w = l.loadFrom fs pairs v := by
  rcases loadFrom_eq_or_fieldStops hl pairs v w with h | ⟨_, _, _, _, -, -, -, hstopped, -⟩
  · exact h.symm
  · rw [hc] at hstopped
    cases hstopped

theorem outcome_of_walk (hl : l.Apart fs) {c : Configuration} (hc : (l.loadFrom fs pairs v).outcome = .ok c) (w : Walk) :
    (l.loadFrom fs pairs w).outcome = .ok c := by
  rw [loadFrom_of_walk hl hc, hc]

end Loader

end AuthProxy
