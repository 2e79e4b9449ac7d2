import AuthProxy.Layer.Reading
import AuthProxy.Proofs.Layer.Access

/-!
# Trees whose sections are tables

A tree is `Sectional` if a table stands wherever a section may stand. In such a tree a field is found at its path of keys
(`follow_route`), and a value put at the path of a field leaves the sections tables (`Sectional.putAt`).
-/

namespace AuthProxy.Layer

namespace Tree

/-- Wherever a section stands there is a table. -/
def Sectional (t : Tree) : Prop :=
  ∀ (s : Section) (u : Tree), t.at? s.path = some u → u.IsTable

theorem sectional_empty : empty.Sectional := by
  intro s u h
  cases hp : s.path with
  | nil =>
    rw [hp] at h
    cases h
    exact ⟨_, _, rfl⟩
  | cons k path =>
    rw [hp] at h
    cases h

theorem at?_empty_of_ne_nil {p : List String} (h : p ≠ []) : empty.at? p = none := by
  obtain ⟨k, p, rfl⟩ := List.exists_cons_of_ne_nil h
  rfl

end Tree

/-! ## Fields in a tree -/

/-- The key at the end of a route. -/
def keyAlong (key : String) (route : List Step) : String :=
  route.foldl (fun key s => Located.keyOf key s.key) key

/-- One step from a table is to the entry of its key. -/
theorem Located.step_table (b : Bool) (es : Entries) (key : String) (s : Step) :
    Located.step ⟨.table b es, key⟩ s = .ok ((es.lookup s.key).map (⟨·, Located.keyOf key s.key⟩)) := rfl

/-- A route through tables leads to what stands at its keys. -/
theorem follow_of_tables {route : List Step} : ∀ {t : Tree} {key : String},
    (∀ q u, q <+: route.map (·.key) → q ≠ route.map (·.key) → t.at? q = some u → u.IsTable) →
    Located.follow ⟨t, key⟩ route = .ok ((t.at? (route.map (·.key))).map (⟨·, keyAlong key route⟩)) := by
  induction route with
  | nil => exact fun {t key} _ => rfl
  | cons s r ih =>
    intro t key h
    obtain ⟨b, es, rfl⟩ := h [] t List.nil_prefix (by simp) rfl
    have hat : (Tree.table b es).at? ((s :: r).map (·.key)) = (es.lookup s.key).bind (Tree.at? (r.map (·.key))) := rfl
    rw [Located.follow, Located.step_table, hat]
    cases hu : es.lookup s.key with
    | none => rfl
    | some u =>
      refine ih fun q w hq hne hw => h (s.key :: q) w ?_ ?_ ?_
      · exact List.cons_prefix_cons.2 ⟨rfl, hq⟩
      · exact fun e => hne (List.cons.inj e).2
      · rw [Tree.at?_cons]
        change (es.lookup s.key).bind _ = _
        rw [hu]
        exact hw

theorem keyAlong_route (f : Field) : keyAlong "" f.route = f.dotted := by
  have hall : ∀ f ∈ Field.all, keyAlong "" f.route = f.dotted := by
    decide +kernel
  exact hall f f.mem_all

/-- A route leads to what stands at its keys, since only tables are on the way there. -/
theorem follow_of_at? {route : List Step} : ∀ {t u : Tree} {key : String}, t.at? (route.map (·.key)) = some u →
    Located.follow ⟨t, key⟩ route = .ok (some ⟨u, keyAlong key route⟩) := by
  induction route with
  | nil =>
    intro t u key h
    cases h
    rfl
  | cons s r ih =>
    intro t u key h
    obtain ⟨w, hw, hu⟩ := Option.bind_eq_some_iff.1 h
    cases t with
    | table b es =>
      have hlookup : es.lookup s.key = some w := hw
      rw [Located.follow, Located.step_table, hlookup]
      exact ih hu
    | nil => cases hw
    | scalar b x => cases hw
    | list b items => cases hw

/-- A field is read from what stands at its path, whatever stands elsewhere. -/
theorem readField_of_at? {t u : Tree} {f : Field} (h : t.at? f.path = some u) (file : Option String) :
    readField file t f = some <$> Located.value file ⟨u, f.dotted⟩ f.kind := by
  rw [readField, follow_of_at? h, keyAlong_route]
  rfl

namespace Tree

variable {t : Tree}

/-- **A field is found** at its path of keys. -/
theorem Sectional.follow_route (h : t.Sectional) (f : Field) :
    Located.follow ⟨t, ""⟩ f.route = .ok ((t.at? f.path).map (⟨·, f.dotted⟩)) := by
  rw [← keyAlong_route]
  apply follow_of_tables
  intro q u hq hne hu
  obtain ⟨s, rfl⟩ := Field.exists_section hq hne
  exact h s u hu

/-- A field is read from what stands at its path. -/
theorem Sectional.readField (h : t.Sectional) (file : Option String) (f : Field) : Layer.readField file t f =
    match t.at? f.path with
    | some u => some <$> Located.value file ⟨u, f.dotted⟩ f.kind
    | none => .ok none := by
  rw [Layer.readField, h.follow_route]
  cases t.at? f.path <;> rfl

/-- Whatever is no table replaces what it is put onto. -/
theorem put_of_not_isTable {v : Tree} (hv : ¬ v.IsTable) (t : Tree) : put v t = v := by
  cases v with
  | table b es => exact absurd ⟨b, es, rfl⟩ hv
  | nil => rw [put]; rintro _ _ ⟨⟩
  | scalar b s => rw [put]; rintro _ _ ⟨⟩
  | list b items => rw [put]; rintro _ _ ⟨⟩

/-- A value put at the path of a field leaves the sections tables. -/
theorem Sectional.putAt (h : t.Sectional) (f : Field) (v : Tree) : (Tree.putAt (keys f.path) v t).Sectional := by
  intro s u hu
  rcases s.prefix_or_parts f with ⟨hpre, hne⟩ | hparts
  · obtain ⟨w, hw, htable⟩ := at?_alterPath_prefix (put v) hpre hne t
    rw [Tree.putAt, hw] at hu
    cases hu
    exact htable
  · rw [Tree.putAt, at?_alterPath_of_parts (put v) hparts] at hu
    exact h s u hu

end Tree

end AuthProxy.Layer
