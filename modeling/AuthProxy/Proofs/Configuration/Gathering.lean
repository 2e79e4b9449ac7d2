import AuthProxy.Layer.Reading
import AuthProxy.Proofs.FirstStop
import AuthProxy.Toml.Reading

/-!
# What a gathered configuration holds

A configuration is gathered if every field can be read, and then holds in each field what was found there, or the default
(`gather_eq_ok_iff`): the order of the fields is no matter. Otherwise the first field that cannot be read says why
(`gather_eq_error_iff`), and any of them is the first in some order (`exists_gather_eq_error_iff`). The defaults of single fields are
those of the sections (`Field.ownDefault_eq`), so that it does not matter to either reader whether a section is there
(`gather_completed`).
-/

namespace AuthProxy.Configuration

variable {ε : Type} {read : (f : Field) → Except ε (Option f.Value)} {order : Field.Order}

/-- The configuration with a field set to what was found, if anything was. -/
def settle (c : Configuration) (f : Field) (o : Option f.Value) : Configuration :=
  o.elim c (Field.set c f)

theorem get_settle_self (c : Configuration) (f : Field) (o : Option f.Value) :
    Field.get (settle c f o) f = o.getD (Field.get c f) := by
  cases o with
  | none => rfl
  | some v => exact Field.get_set c f v

theorem get_settle_of_ne (c : Configuration) {f g : Field} (o : Option f.Value) (h : g ≠ f) :
    Field.get (settle c f o) g = Field.get c g := by
  cases o with
  | none => rfl
  | some v => exact Field.get_set_of_ne c v h

/-- The rest of the fields start from the configuration in which the first one is settled. -/
theorem gatherFrom_cons_of_ok {c : Configuration} {f : Field} {o : Option f.Value} (h : read f = .ok o) (fs : List Field) :
    gatherFrom read c (f :: fs) = gatherFrom read (settle c f o) fs := by
  rw [gatherFrom, h]
  cases o <;> rfl

/-- What is gathered from fields, in the order of their reading: each field in turn has what was found, and all others stay. -/
theorem gatherFrom_eq_ok_iff {fs : List Field} (hfs : fs.Nodup) :
    ∀ {c d : Configuration}, gatherFrom read c fs = .ok d ↔
      (∀ f ∈ fs, ∃ o, read f = .ok o ∧ Field.get d f = o.getD (Field.get c f)) ∧
        ∀ f ∉ fs, Field.get d f = Field.get c f := by
  induction fs with
  | nil =>
    intro c d
    constructor
    · intro h
      cases h
      exact ⟨List.forall_mem_nil _, fun _ _ => rfl⟩
    · rintro ⟨-, h⟩
      rw [Configuration.ext_field fun f => h f List.not_mem_nil]
      rfl
  | cons f fs ih =>
    intro c d
    obtain ⟨hf, hnodup⟩ := List.nodup_cons.1 hfs
    have hne : ∀ g ∈ fs, g ≠ f := fun g hg h => hf (h ▸ hg)
    constructor
    · intro h
      cases hread : read f with
      | error e =>
        rw [gatherFrom, hread] at h
        cases h
      | ok o =>
        rw [gatherFrom_cons_of_ok hread] at h
        obtain ⟨hin, hout⟩ := (ih hnodup).1 h
        refine ⟨List.forall_mem_cons.2 ⟨⟨o, hread, ?_⟩, fun g hg => ?_⟩, fun g hg => ?_⟩
        · rw [hout f hf, get_settle_self]
        · rw [← get_settle_of_ne c o (hne g hg)]
          exact hin g hg
        · obtain ⟨hg, hgs⟩ : g ≠ f ∧ g ∉ fs := by simpa using hg
          rw [hout g hgs, get_settle_of_ne c o hg]
    · rintro ⟨hin, hout⟩
      obtain ⟨⟨o, hread, hd⟩, hin⟩ := List.forall_mem_cons.1 hin
      rw [gatherFrom_cons_of_ok hread]
      refine (ih hnodup).2 ⟨fun g hg => ?_, fun g hg => ?_⟩
      · rw [get_settle_of_ne c o (hne g hg)]
        exact hin g hg
      · by_cases hgf : g = f
        · subst hgf
          rw [hd, get_settle_self]
        · rw [get_settle_of_ne c o hgf, hout g (by simp [hgf, hg])]

/-- **A configuration is gathered** exactly if every field can be read; then it holds what was found or the default. -/
theorem gather_eq_ok_iff {d : Configuration} : gather order read = .ok d ↔
    ∀ f, ∃ o, read f = .ok o ∧ Field.get d f = o.getD (Field.get default f) := by
  rw [gather, gatherFrom_eq_ok_iff order.nodup]
  constructor
  · rintro ⟨h, -⟩ f
    exact h f (order.mem f)
  · exact fun h => ⟨fun f _ => h f, fun f hf => absurd (order.mem f) hf⟩

theorem gatherFrom_eq_error_iff {fs : List Field} {e : ε} :
    ∀ {c : Configuration}, gatherFrom read c fs = .error e ↔ ∃ f, StopsAt read fs f e := by
  induction fs with
  | nil =>
    intro c
    exact ⟨fun h => (nomatch h), fun ⟨f, h⟩ => absurd h not_stopsAt_nil⟩
  | cons f fs ih =>
    intro c
    cases hread : read f with
    | error e' =>
      rw [gatherFrom, hread]
      simp only [stopsAt_cons_of_error hread]
      constructor
      · intro h
        cases h
        exact ⟨f, rfl, rfl⟩
      · rintro ⟨_, -, rfl⟩
        rfl
    | ok o =>
      simp only [stopsAt_cons_of_ok hread]
      rw [gatherFrom_cons_of_ok hread]
      exact ih

/-- **Gathering stops** for the reason of the first field that cannot be read. -/
theorem gather_eq_error_iff {e : ε} : gather order read = .error e ↔ ∃ f, StopsAt read order.fields f e :=
  gatherFrom_eq_error_iff

/-- **In two orders** the same is gathered, or each order comes first to another field that cannot be read. -/
theorem gather_eq_or_error (read : (f : Field) → Except ε (Option f.Value)) (order order' : Field.Order) :
    gather order read = gather order' read ∨ ∃ f g e e', f ≠ g ∧ read f = .error e ∧ read g = .error e' ∧
      gather order read = .error e ∧ gather order' read = .error e' := by
  cases h : gather order read with
  | ok c => exact .inl (gather_eq_ok_iff.2 (gather_eq_ok_iff.1 h)).symm
  | error e =>
    obtain ⟨f, hf⟩ := gather_eq_error_iff.1 h
    cases h' : gather order' read with
    | ok c =>
      obtain ⟨o, ho, -⟩ := gather_eq_ok_iff.1 h' f
      rw [hf.error] at ho
      cases ho
    | error e' =>
      obtain ⟨g, hg⟩ := gather_eq_error_iff.1 h'
      by_cases hfg : f = g
      · subst hfg
        cases hf.error.symm.trans hg.error
        exact .inl rfl
      · exact .inr ⟨f, g, e, e', hfg, hf.error, hg.error, rfl, rfl⟩

/-- **Any field that cannot be read** stops the gathering in some order. -/
theorem exists_gather_eq_error_iff {e : ε} : (∃ order, gather order read = .error e) ↔ ∃ f, read f = .error e := by
  constructor
  · rintro ⟨order, h⟩
    obtain ⟨f, hf⟩ := gather_eq_error_iff.1 h
    exact ⟨f, hf.error⟩
  · rintro ⟨f, hf⟩
    exact ⟨.front f, gather_eq_error_iff.2 ⟨f, .head hf⟩⟩

/-! ## Two defaults of a field -/

/-- **The two defaults of a field** agree: that of the field by itself, and the one in its default section. -/
theorem Field.ownDefault_eq (f : Field) : f.ownDefault = Field.get .default f := by
  cases f <;> rfl

/-- A field that has its default is not changed by the default of its own. -/
theorem gatherFrom_completed (hasSection : Section → Bool) {fs : List Field} (hfs : fs.Nodup) : ∀ {c : Configuration},
    (∀ f ∈ fs, Field.get c f = Field.get default f) → gatherFrom (completed hasSection read) c fs = gatherFrom read c fs := by
  induction fs with
  | nil => exact fun {c} _ => rfl
  | cons f fs ih =>
    intro c hc
    obtain ⟨hf, hnodup⟩ := List.nodup_cons.1 hfs
    obtain ⟨hcf, hc⟩ := List.forall_mem_cons.1 hc
    cases hread : read f with
    | error e =>
      rw [gatherFrom, gatherFrom, completed, hread]
      rfl
    | ok o =>
      cases o with
      | some v =>
        have hcompleted : completed hasSection read f = .ok (some v) := by
          rw [completed, hread]
          rfl
        rw [gatherFrom_cons_of_ok hcompleted, gatherFrom_cons_of_ok hread]
        refine ih hnodup fun g hg => ?_
        have hne : g ≠ f := fun h => hf (h ▸ hg)
        rw [get_settle_of_ne c _ hne]
        exact hc g hg
      | none =>
        have hcompleted : completed hasSection read f = .ok (if hasSection f.owner then some f.ownDefault else none) := by
          rw [completed, hread]
          rfl
        have hsettle : settle c f (if hasSection f.owner then some f.ownDefault else none) = c := by
          split
          · rw [Field.ownDefault_eq, ← hcf]
            exact Field.set_get c f
          · rfl
        rw [gatherFrom_cons_of_ok hcompleted, gatherFrom_cons_of_ok hread, hsettle]
        exact ih hnodup hc

/-- **Which sections are there** does not matter to what is gathered. -/
theorem gather_completed (order : Field.Order) (hasSection : Section → Bool) (read : (f : Field) → Except ε (Option f.Value)) :
    gather order (completed hasSection read) = gather order read :=
  gatherFrom_completed hasSection order.nodup fun _ _ => rfl

/-- Fields can be given their values independently of each other. -/
theorem exists_forall_get {P : (f : Field) → f.Value → Prop} (h : ∀ f, ∃ x, P f x) :
    ∃ d : Configuration, ∀ f, P f (Field.get d f) := by
  let read (f : Field) : Except Unit (Option f.Value) := .ok (some (Classical.choose (h f)))
  cases hg : gather .declared read with
  | error e =>
    obtain ⟨f, hf⟩ := gather_eq_error_iff.1 hg
    cases hf.error
  | ok d =>
    refine ⟨d, fun f => ?_⟩
    obtain ⟨o, ho, hd⟩ := gather_eq_ok_iff.1 hg f
    cases ho
    rw [hd]
    exact Classical.choose_spec (h f)

end AuthProxy.Configuration

namespace AuthProxy

/-! ## The readers -/

namespace Layer

variable {order : Field.Order} {file : Option String} {t : Tree}

theorem readConfiguration_eq_gather (order : Field.Order) (file : Option String) (t : Tree) :
    readConfiguration order file t = Configuration.gather order (readField file t) :=
  Configuration.gather_completed _ _ _

theorem readConfiguration_eq_ok_iff {c : Configuration} : readConfiguration order file t = .ok c ↔
    ∀ f, ∃ o, readField file t f = .ok o ∧ Field.get c f = o.getD (Field.get .default f) := by
  rw [readConfiguration_eq_gather, Configuration.gather_eq_ok_iff]

theorem readConfiguration_eq_error_iff {e : Stop Misfit} : readConfiguration order file t = .error e ↔
    ∃ f, StopsAt (readField file t) order.fields f e := by
  rw [readConfiguration_eq_gather, Configuration.gather_eq_error_iff]

end Layer

theorem Toml.readConfiguration_eq_ok_iff {s : List Char} {t : Table} (h : parse? s = some t) {order : Field.Order}
    {c : Configuration} : readConfiguration s order = .ok c ↔
      ∀ f, ∃ o, readField t f = .ok o ∧ Field.get c f = o.getD (Field.get .default f) := by
  rw [readConfiguration, h]
  dsimp only
  rw [Configuration.gather_completed, Configuration.gather_eq_ok_iff]

end AuthProxy
