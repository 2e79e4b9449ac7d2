import AuthProxy.Proofs.Configuration.Gathering
import AuthProxy.Proofs.Toml.Distinct
import AuthProxy.Proofs.Toml.Spelling

/-!
# Documents that give values to fields

A document gives values to some of the fields if what stands at the path of a field spells the value, with nothing at the paths of
the other fields, and if there are tables for sections (`Gives`). The strict reader finds these values (`Gives.readField`), and
takes the defaults for all other fields (`Gives.readConfiguration`).
-/

namespace AuthProxy.Toml

/-- A route through tables leads to what stands at its keys. -/
theorem Value.follow_of_tables {route : List Step} : ∀ {v : Value},
    (∀ q u, q <+: route.map (·.key) → q ≠ route.map (·.key) → v.at? q = some u → u.IsTable) →
      v.follow route = .ok (v.at? (route.map (·.key))) := by
  induction route with
  | nil => exact fun {v} _ => rfl
  | cons s r ih =>
    intro v h
    have hv : v.IsTable := h [] v List.nil_prefix (by simp) rfl
    cases v with
    | table es =>
      have hstep : (table es).step s = .ok (es.lookup s.key) := rfl
      have hat : (table es).at? ((s :: r).map (·.key)) = (es.lookup s.key).bind (at? (r.map (·.key))) := rfl
      rw [follow, hstep, hat]
      cases hw : es.lookup s.key with
      | none => rfl
      | some w =>
        refine ih fun q u hq hne hu => h (s.key :: q) u ?_ ?_ ?_
        · exact List.cons_prefix_cons.2 ⟨rfl, hq⟩
        · exact fun e => hne (List.cons.inj e).2
        · change (es.lookup s.key).bind _ = _
          rw [hw]
          exact hu
    | _ => cases hv

/-- What stands at the path of a field spells the value that is given to it, and tables lead there. -/
structure Gives (t : Table) (values : (f : Field) → Option f.Value) : Prop where
  distinct : (Value.table t).Distinct
  bare : ∀ e ∈ t, IsBare e.1
  sections : ∀ (s : Section) w, (Value.table t).at? s.path = some w → w.IsTable
  fields : ∀ f, Option.Rel (fun w x => Value.Spells w f.kind x) ((Value.table t).at? f.path) (values f)
  fits : integersFitEntries t = true

/-- The defaults with the values of some fields in their place. -/
theorem exists_configuration (values : (f : Field) → Option f.Value) :
    ∃ c, ∀ f, Field.get c f = (values f).getD (Field.get .default f) := by
  have hvalue : ∀ f : Field, ∃ x : f.Value, x = (values f).getD (Field.get .default f) := fun _ => ⟨_, rfl⟩
  exact Configuration.exists_forall_get hvalue

namespace Gives

variable {t : Table} {values : (f : Field) → Option f.Value} (h : Gives t values)

include h

theorem follow_route (f : Field) : (Value.table t).follow f.route = .ok ((Value.table t).at? f.path) := by
  refine Value.follow_of_tables fun q u hq hne hu => ?_
  obtain ⟨s, rfl⟩ := Field.exists_section hq hne
  exact h.sections s u hu

/-- **The strict reader** finds of a field what is given. -/
theorem readField (f : Field) : readField t f = .ok (values f) := by
  rw [Toml.readField, h.follow_route]
  have hrel := h.fields f
  generalize (Value.table t).at? f.path = o, values f = x at hrel ⊢
  cases hrel with
  | none => rfl
  | some hspells =>
    change some <$> Value.ofKind _ (.wrongType f) f.kind = _
    rw [hspells.ofKind]
    rfl

theorem readConfiguration {s : List Char} (hparse : parse? s = some t) {c : Configuration}
    (hc : ∀ f, Field.get c f = (values f).getD (Field.get .default f)) (order : Field.Order) :
    readConfiguration s order = .ok c :=
  (readConfiguration_eq_ok_iff hparse).2 fun f => ⟨values f, h.readField f, hc f⟩

end Gives

end AuthProxy.Toml
