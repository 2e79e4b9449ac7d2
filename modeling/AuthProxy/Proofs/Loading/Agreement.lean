import AuthProxy.Proofs.Loading.Layers
import Mathlib.Data.List.Nodup

/-!
# Trees that agree off a path

Two trees that hold something at a path, perhaps not the same, and do not differ anywhere else (`AgreeOff`). Whatever is done to
both at a path that parts from it leaves them so (`AgreeOff.alterPath`), and fields other than the one at the path are read
from both alike (`AgreeOff.readField`). So it is with the trees of two loads whose variables differ in one alone
(`agreeOff_override`).
-/

namespace AuthProxy

namespace Layer

namespace Tree

/-- Both trees hold something at the path, and the same wherever a path parts from it. -/
structure AgreeOff (path : List String) (t u : Tree) : Prop where
  left : ∃ v, t.at? path = some v
  right : ∃ v, u.at? path = some v
  rest : ∀ q, Parts path q → t.at? q = u.at? q

variable {path : List String} {t u : Tree}

/-- A tree agrees with the one in which something else stands at the path. -/
theorem agreeOff_alterPath (f g : Tree → Tree) (path : List String) (t : Tree) :
    AgreeOff path (alterPath f (keys path) t) (alterPath g (keys path) t) where
  left := ⟨_, at?_alterPath_self f path t⟩
  right := ⟨_, at?_alterPath_self g path t⟩
  rest _ hq := by
    rw [at?_alterPath_of_parts f hq, at?_alterPath_of_parts g hq]

/-- If something stands at the path, putting something else there is all the difference. -/
theorem agreeOff_alterPath_left (f : Tree → Tree) {v : Tree} (h : t.at? path = some v) :
    AgreeOff path t (alterPath f (keys path) t) where
  left := ⟨v, h⟩
  right := ⟨_, at?_alterPath_self f path t⟩
  rest _ hq := (at?_alterPath_of_parts f hq t).symm

namespace AgreeOff

/-- What is done to both trees at another path keeps them so. -/
theorem alterPath (h : AgreeOff path t u) (f : Tree → Tree) {p : List String} (hp : Parts p path) :
    AgreeOff path (Tree.alterPath f (keys p) t) (Tree.alterPath f (keys p) u) where
  left := by
    rw [at?_alterPath_of_parts f hp]
    exact h.left
  right := by
    rw [at?_alterPath_of_parts f hp]
    exact h.right
  rest q hq := by
    by_cases hqp : q <+: p
    · obtain ⟨r, rfl⟩ := hqp
      rw [at?_alterPath_append, at?_alterPath_append, h.rest q hq]
    by_cases hpq : p <+: q
    · -- below the altered path nothing is left of what stood there
      obtain ⟨r, rfl⟩ := hpq
      rw [at?_append, at?_append, at?_alterPath_self, at?_alterPath_self, h.rest p hp.symm]
    · rw [at?_alterPath_of_parts f ⟨hpq, hqp⟩, at?_alterPath_of_parts f ⟨hpq, hqp⟩, h.rest q hq]

/-- A route that parts from the path leads to the same in both trees. -/
theorem follow {route : List Step} : ∀ {path : List String} {t u : Tree} {key : String}, AgreeOff path t u →
    Parts path (route.map (·.key)) → Located.follow ⟨t, key⟩ route = Located.follow ⟨u, key⟩ route := by
  induction route with
  | nil => exact fun _ hparts => absurd List.nil_prefix hparts.2
  | cons s r ih =>
    intro path t u key h hparts
    obtain ⟨k, path, rfl⟩ := List.exists_cons_of_ne_nil fun e : path = [] => hparts.1 (e ▸ List.nil_prefix)
    obtain ⟨v, hv⟩ := h.left
    obtain ⟨w, hw⟩ := h.right
    obtain ⟨t', ht, hv'⟩ := Option.bind_eq_some_iff.1 hv
    obtain ⟨u', hu, hw'⟩ := Option.bind_eq_some_iff.1 hw
    obtain ⟨b, es, rfl⟩ := isTable_of_child? ht
    obtain ⟨b', es', rfl⟩ := isTable_of_child? hu
    rw [Located.follow, Located.follow, Located.step_table, Located.step_table]
    by_cases hk : k = s.key
    · subst hk
      have hsub : AgreeOff path t' u' := by
        refine ⟨⟨v, hv'⟩, ⟨w, hw'⟩, fun q hq => ?_⟩
        have hrest := h.rest (s.key :: q) (parts_cons.2 hq)
        rwa [at?_cons, at?_cons, ht, hu] at hrest
      have hlookup : es.lookup s.key = some t' := ht
      have hlookup' : es'.lookup s.key = some u' := hu
      rw [hlookup, hlookup']
      exact ih hsub (parts_cons.1 hparts)
    · have hrest := h.rest [s.key] (parts_cons_of_ne hk _ _)
      have hlookup : es.lookup s.key = es'.lookup s.key := by
        rwa [at?_singleton, at?_singleton] at hrest
      rw [hlookup]

/-- Another field is read from both trees alike. -/
theorem readField {f g : Field} (h : AgreeOff f.path t u) (hne : g ≠ f) (file : Option String) :
    Layer.readField file t g = Layer.readField file u g := by
  rw [Layer.readField, Layer.readField, h.follow (Field.parts_of_ne hne.symm)]

/-- Overrides of other fields keep the trees so. -/
theorem override {f : Field} {os : List Override} (hos : f ∉ os.map (·.binding.field)) :
    ∀ {t u : Tree}, AgreeOff f.path t u → AgreeOff f.path (Sources.override t os) (Sources.override u os) := by
  induction os with
  | nil => exact id
  | cons o os ih =>
    intro t u h
    obtain ⟨hne, hmem⟩ : f ≠ o.binding.field ∧ f ∉ os.map (·.binding.field) := by
      rwa [List.map_cons, List.mem_cons, not_or] at hos
    exact ih hmem (h.alterPath _ (Field.parts_of_ne hne.symm))

end AgreeOff

end Tree

end Layer

/-! ## Overrides of which one differs -/

open Layer

/-- The override of a binding, if its variable occurs. -/
def Binding.override? (pairs : List (String × String)) (b : Binding) : Option Override :=
  (b.coerced pairs).toOption.join.map (Override.mk b)

theorem collectOverrides_eq_filterMap {pairs : List (String × String)} {os : List Override}
    (h : collectOverrides pairs = .ok os) : os = Binding.table.filterMap (Binding.override? pairs) :=
  (overridesOf_eq_ok_iff.1 h).2

/-- The bindings before and behind one are of other fields. -/
theorem Binding.exists_append_of_mem {b : Binding} (hb : b ∈ table) : ∃ pre post, table = pre ++ b :: post ∧
    b.field ∉ pre.map (·.field) ∧ b.field ∉ post.map (·.field) := by
  obtain ⟨pre, post, htable⟩ := List.append_of_mem hb
  have hnodup : (table.map (·.field)).Nodup := by
    decide
  rw [htable, List.map_append, List.map_cons, List.nodup_middle, List.nodup_cons, List.mem_append, not_or] at hnodup
  exact ⟨pre, post, htable, hnodup.1⟩

/-- Overrides of bindings are of their fields. -/
theorem Binding.field_not_mem_overrides {pairs : List (String × String)} {bs : List Binding} {f : Field}
    (h : f ∉ bs.map (·.field)) : f ∉ (bs.filterMap (Binding.override? pairs)).map (·.binding.field) := by
  intro hf
  obtain ⟨o, ho, rfl⟩ := List.mem_map.1 hf
  obtain ⟨b, hb, ho⟩ := List.mem_filterMap.1 ho
  obtain ⟨v, -, rfl⟩ := Option.map_eq_some_iff.1 ho
  exact h (List.mem_map_of_mem hb)

section Differing

variable {pairs pairs' : List (String × String)} {os os' : List Override} {base : Tree} {b : Binding}

/-- **The trees of two loads agree off a field** if their variables differ in that of the field alone. It occurs in the one, and
    in the other it occurs or the file has a value in its place. -/
theorem agreeOff_override (hb : b ∈ Binding.table) (hos : collectOverrides pairs = .ok os)
    (hos' : collectOverrides pairs' = .ok os')
    (hsame : ∀ a ∈ Binding.table, a.field ≠ b.field → a.coerced pairs = a.coerced pairs')
    (hleft : (∃ v, b.coerced pairs = .ok (some v)) ∨
      b.coerced pairs = .ok none ∧ ∃ u, base.at? b.field.path = some u)
    (hright : ∃ v, b.coerced pairs' = .ok (some v)) :
    Tree.AgreeOff b.field.path (Sources.override base os) (Sources.override base os') := by
  obtain ⟨pre, post, htable, hpre, hpost⟩ := Binding.exists_append_of_mem hb
  have hcongr : ∀ bs : List Binding, (∀ a ∈ bs, a ∈ Binding.table) → b.field ∉ bs.map (·.field) →
      bs.filterMap (Binding.override? pairs') = bs.filterMap (Binding.override? pairs) := by
    intro bs hbs hfield
    refine List.filterMap_congr fun a ha => ?_
    have hne : a.field ≠ b.field := fun h => hfield (h ▸ List.mem_map_of_mem ha)
    rw [Binding.override?, Binding.override?, hsame a (hbs a ha) hne]
  have hmem : (∀ a ∈ pre, a ∈ Binding.table) ∧ ∀ a ∈ post, a ∈ Binding.table := by
    rw [htable]
    exact ⟨fun a ha => by simp [ha], fun a ha => by simp [ha]⟩
  obtain ⟨v', hv'⟩ := hright
  have hown' : b.override? pairs' = some ⟨b, v'⟩ := by
    rw [Binding.override?, hv']
    rfl
  rw [collectOverrides_eq_filterMap hos, collectOverrides_eq_filterMap hos', htable, List.filterMap_append,
    List.filterMap_append, hcongr pre hmem.1 hpre, List.filterMap_cons_some hown', Sources.override_append,
    Sources.override_append, Sources.override_cons]
  rcases hleft with ⟨v, hv⟩ | ⟨hnone, u, hu⟩
  · have hown : b.override? pairs = some ⟨b, v⟩ := by
      rw [Binding.override?, hv]
      rfl
    rw [List.filterMap_cons_some hown, hcongr post hmem.2 hpost, Sources.override_cons]
    exact (Tree.agreeOff_alterPath _ _ _ _).override (Binding.field_not_mem_overrides hpost)
  · have hown : b.override? pairs = none := by
      rw [Binding.override?, hnone]
      rfl
    rw [List.filterMap_cons_none hown, hcongr post hmem.2 hpost]
    have hat : (Sources.override base (pre.filterMap (Binding.override? pairs))).at? b.field.path = some u := by
      rw [Sources.at?_override_of_not_mem (Binding.field_not_mem_overrides hpre), hu]
    exact (Tree.agreeOff_alterPath_left _ hat).override (Binding.field_not_mem_overrides hpost)

end Differing

end AuthProxy
