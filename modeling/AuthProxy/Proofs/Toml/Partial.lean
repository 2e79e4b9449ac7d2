import AuthProxy.Proofs.Toml.Building
import AuthProxy.Proofs.Toml.Giving

/-!
# Documents that consist of some of the fields

A document may give any of the fields and leave the others out (`ConsistsOf`). Since no key is written twice, what it holds is
what keys lead to (`Value.Distinct.mem_contents_iff`), so that it gives the values of these fields and of no others
(`ConsistsOf.gives`).
-/

namespace AuthProxy.Toml

/-! ## What keys lead to -/

namespace Value

variable {v : Value}

theorem lookup_of_mem {es : Table} (hkeys : (es.map (·.1)).Nodup) {e : String × Value} (he : e ∈ es) :
    es.lookup e.1 = some e.2 := by
  obtain ⟨before, behind, rfl⟩ := List.append_of_mem he
  rw [List.map_append, List.nodup_append] at hkeys
  refine List.lookup_eq_some_iff.2 ⟨before, behind, rfl, fun d hd => bne_iff_ne.2 fun hkey => ?_⟩
  exact hkeys.2.2 d.1 (List.mem_map_of_mem hd) e.1 (by simp) hkey.symm

mutual

/-- What a value holds, each part with the keys that lead there: the value itself, and what the tables within it hold. -/
def contents : Value → List (List String × Value)
  | table es => ([], table es) :: contentsOf es
  | v => [([], v)]

def contentsOf : Table → List (List String × Value)
  | [] => []
  | (k, v) :: r => v.contents.map (fun c => (k :: c.1, c.2)) ++ contentsOf r

end

theorem mem_contentsOf {c : List String × Value} (es : Table) :
    c ∈ contentsOf es ↔ ∃ e ∈ es, ∃ d ∈ e.2.contents, c = (e.1 :: d.1, d.2) := by
  induction es with
  | nil => simp [contentsOf]
  | cons e es ih =>
    rw [contentsOf, List.mem_append, ih, List.exists_mem_cons_iff, List.mem_map]
    simp only [eq_comm]

theorem mem_contents_self (v : Value) : ([], v) ∈ v.contents := by
  cases v <;> simp [contents]

theorem contents_of_not_isTable (h : ¬ v.IsTable) : v.contents = [([], v)] := by
  cases v with
  | table es => exact absurd trivial h
  | _ => rfl

/-- Where keys are distinct, a value holds what they lead to. -/
theorem Distinct.mem_contents_iff (h : v.Distinct) : ∀ {p : List String} {w : Value},
    (p, w) ∈ v.contents ↔ v.at? p = some w := by
  induction h with
  | @plain v hplain =>
    intro p w
    rw [contents_of_not_isTable hplain, List.mem_singleton, Prod.mk.injEq]
    cases p with
    | nil => exact ⟨fun h => h.2 ▸ rfl, fun h => ⟨rfl, (Option.some.inj h).symm⟩⟩
    | cons k p =>
      rw [at?, entries_of_not_isTable hplain]
      constructor
      · rintro ⟨h, -⟩
        cases h
      · intro h
        cases h
  | @table es hkeys _ ih =>
    intro p w
    rw [contents, List.mem_cons, mem_contentsOf, Prod.mk.injEq]
    cases p with
    | nil =>
      constructor
      · rintro (⟨-, rfl⟩ | ⟨_, -, _, -, h⟩)
        · rfl
        · cases h
      · exact fun h => .inl ⟨rfl, (Option.some.inj h).symm⟩
    | cons k p =>
      rw [at?, Option.bind_eq_some_iff]
      constructor
      · rintro (⟨h, -⟩ | ⟨e, he, ⟨q, u⟩, hd, h⟩)
        · cases h
        · cases h
          exact ⟨e.2, lookup_of_mem hkeys he, (ih e he).1 hd⟩
      · rintro ⟨u, hu, hw⟩
        obtain ⟨before, behind, hes, -⟩ := List.lookup_eq_some_iff.1 hu
        have he : (k, u) ∈ es := by
          rw [show es = before ++ (k, u) :: behind from hes]
          simp
        exact .inr ⟨(k, u), he, (p, w), (ih _ he).2 hw, rfl⟩

/-- All integers fit if those do that are in no table of their own. -/
theorem Distinct.integersFit (h : v.Distinct) (hfit : ∀ c ∈ v.contents, ¬ c.2.IsTable → c.2.integersFit = true) :
    v.integersFit = true := by
  induction h with
  | plain hplain => exact hfit _ (mem_contents_self _) hplain
  | @table es _ _ ih =>
    rw [Value.integersFit]
    refine integersFitEntries_of_forall fun e he => ih e he fun d hd hplain => ?_
    exact hfit (e.1 :: d.1, d.2) (List.mem_cons_of_mem _ ((mem_contentsOf es).2 ⟨e, he, d, hd, rfl⟩)) hplain

end Value

/-! ## Documents -/

/-- A document that consists of the values of some fields, in the tables of their sections. -/
structure ConsistsOf (t : Table) (values : (f : Field) → Option f.Value) : Prop where
  /-- The value of each of these fields is there. -/
  fields : ∀ f x, values f = some x → ∃ w, (f.path, w) ∈ (Value.table t).contents ∧ w.Spells f.kind x
  /-- There is no other value. -/
  leaves : ∀ c ∈ (Value.table t).contents, ¬ c.2.IsTable → ∃ f, c.1 = f.path ∧ (values f).isSome
  /-- There is no other table. -/
  tables : ∀ c ∈ (Value.table t).contents, c.2.IsTable → ∃ s : Section, c.1 = s.path

namespace ConsistsOf

variable {t : Table} {values : (f : Field) → Option f.Value}

/-- A section is a table. -/
theorem isTable_of_section (h : ConsistsOf t values) {s : Section} {w : Value} (hw : (s.path, w) ∈ (Value.table t).contents) :
    w.IsTable := by
  by_contra hplain
  obtain ⟨f, hf, -⟩ := h.leaves _ hw hplain
  rcases s.prefix_or_parts f with ⟨-, hne⟩ | hparts
  · exact hne hf
  · exact hparts.1 (hf ▸ List.prefix_refl f.path)

/-- There is nothing at the path of a field that is not given. -/
theorem not_mem_of_none (h : ConsistsOf t values) {f : Field} (hf : values f = none) (w : Value) :
    (f.path, w) ∉ (Value.table t).contents := by
  intro hw
  by_cases htable : w.IsTable
  · obtain ⟨s, hs⟩ := h.tables _ hw htable
    rcases s.prefix_or_parts f with ⟨-, hne⟩ | hparts
    · exact hne hs.symm
    · exact hparts.1 (hs ▸ List.prefix_refl f.path)
  · obtain ⟨g, hg, hsome⟩ := h.leaves _ hw htable
    by_cases hfg : f = g
    · rw [← hfg, hf] at hsome
      cases hsome
    · exact (Field.parts_of_ne hfg).1 (hg ▸ List.prefix_refl f.path)

theorem isBare_of_mem (h : ConsistsOf t values) {e : String × Value} (he : e ∈ t) : IsBare e.1 := by
  have hmem : ([e.1], e.2) ∈ (Value.table t).contents :=
    List.mem_cons_of_mem _ ((Value.mem_contentsOf t).2 ⟨e, he, _, e.2.mem_contents_self, rfl⟩)
  by_cases htable : e.2.IsTable
  · obtain ⟨s, hs : [e.1] = s.path⟩ := h.tables _ hmem htable
    exact isBare_of_mem_section (hs ▸ List.mem_singleton_self e.1)
  · obtain ⟨f, hf : [e.1] = f.path, -⟩ := h.leaves _ hmem htable
    exact isBare_of_mem_path (hf ▸ List.mem_singleton_self e.1)

variable (ht : (Value.table t).Distinct)

include ht

/-- What is at the path of a field writes what is given for it. -/
theorem at?_path (h : ConsistsOf t values) (f : Field) :
    Option.Rel (fun w x => Value.Spells w f.kind x) ((Value.table t).at? f.path) (values f) := by
  cases hf : values f with
  | none =>
    have hnone : (Value.table t).at? f.path = none := by
      rw [Option.eq_none_iff_forall_ne_some]
      exact fun w hw => h.not_mem_of_none hf w (ht.mem_contents_iff.2 hw)
    rw [hnone]
    exact .none
  | some x =>
    obtain ⟨w, hw, hspells⟩ := h.fields f x hf
    rw [ht.mem_contents_iff.1 hw]
    exact .some hspells

/-- The integers that it holds are ports. -/
theorem integersFit (h : ConsistsOf t values) : integersFitEntries t = true := by
  have hfit : (Value.table t).integersFit = true := by
    refine ht.integersFit fun ⟨p, w⟩ hw hplain => ?_
    obtain ⟨f, rfl, hsome⟩ := h.leaves _ hw hplain
    obtain ⟨x, hx⟩ := Option.isSome_iff_exists.1 hsome
    have hrel := h.at?_path ht f
    rw [ht.mem_contents_iff.1 hw, hx] at hrel
    obtain ⟨hspells⟩ := hrel
    exact hspells.integersFit
  rwa [Value.integersFit] at hfit

/-- **A document that consists of the values of some fields** gives these. -/
theorem gives (h : ConsistsOf t values) : Gives t values where
  distinct := ht
  bare _ he := h.isBare_of_mem he
  sections _ _ hw := h.isTable_of_section (ht.mem_contents_iff.2 hw)
  fields := h.at?_path ht
  fits := h.integersFit ht

end ConsistsOf

end AuthProxy.Toml
