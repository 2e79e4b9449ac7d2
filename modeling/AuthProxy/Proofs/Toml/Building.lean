import AuthProxy.Proofs.Toml.Lines
import AuthProxy.Proofs.Toml.Nodes

/-!
# The document that lines make up

The lines of sections and fields make up a table in which every field that has a value stands at its path, and nothing else
(`exists_build?`). What each line preserves is `Built`: the headers leave the fields as they are, and an assignment gives one
field its value.
-/

namespace AuthProxy.Toml

/-! ## The order of sections and fields -/

theorem path_eq_concat (f : Field) : f.path = f.owner.path ++ [f.key] := by
  simp [Field.path, Field.route, Section.path, Section.step]

/-- What leads to a section are the paths of sections. -/
theorem exists_section_of_prefix {s : Section} {q : List String} (h : q <+: s.path) : ∃ t : Section, q = t.path := by
  have hall : ∀ s ∈ Section.all, ∀ q ∈ s.path.inits, ∃ t ∈ Section.all, q = t.path := by
    decide +kernel
  obtain ⟨t, -, ht⟩ := hall s s.mem_all q ((List.mem_inits q s.path).2 h)
  exact ⟨t, ht⟩

/-- No section leads to one before it. -/
theorem pairwise_sections : Section.all.Pairwise fun s t => ¬ t.path <+: s.path := by
  decide +kernel

theorem nodup_ownFields : (Section.all.flatMap ownFields).Nodup := by
  decide +kernel

theorem owner_of_mem_ownFields {s : Section} {f : Field} (h : f ∈ ownFields s) : f.owner = s := by
  simpa using (List.mem_filter.1 h).2

theorem mem_flatMap_ownFields (f : Field) : f ∈ Section.all.flatMap ownFields :=
  List.mem_flatMap.2 ⟨f.owner, f.owner.mem_all, List.mem_filter.2 ⟨f.mem_all, by simp⟩⟩

/-! ## What each line preserves -/

/-- A table under construction in which some fields are given their values and some sections are to come. -/
structure Built (values : Field → Option Value) (given : List Field) (todo : List Section) (n : Node) : Prop where
  field : ∀ f, n.at? f.path = if f ∈ given then (values f).map .leaf else none
  sections : ∀ (s : Section) u, n.at? s.path = some u → u.Open
  fresh : ∀ s ∈ todo, ownFields s ≠ [] → n.at? s.path = none
  tidy : n.Tidy

variable {values : Field → Option Value} {given : List Field} {todo : List Section} {n : Node}

theorem built_empty (values : Field → Option Value) : Built values [] Section.all .empty where
  field f := by
    rw [if_neg List.not_mem_nil]
    exact Node.at?_of_nil_entries f.path_ne_nil
  sections s u hu := by
    by_cases hs : s.path = []
    · rw [hs] at hu
      cases hu
      exact ⟨_, _, rfl, by decide⟩
    · rw [Node.empty, Node.at?_of_nil_entries hs] at hu
      cases hu
  fresh s _ hs := Node.at?_of_nil_entries (path_of_ownFields hs).1
  tidy := Node.tidy_nil

/-- One more field has its value, and all others stay as they are. -/
theorem Built.field_concat {n' : Node} (h : Built values given todo n) {f : Field}
    (hself : n'.at? f.path = (values f).map .leaf) (hothers : ∀ g, g ≠ f → n'.at? g.path = n.at? g.path) (g : Field) :
    n'.at? g.path = if g ∈ given ++ [f] then (values g).map .leaf else none := by
  by_cases hg : g = f
  · subst hg
    rw [hself, if_pos (by simp)]
  · have hiff : g ∈ given ++ [f] ↔ g ∈ given := by
      simp [hg]
    rw [hothers g hg, h.field, if_congr hiff rfl rfl]

/-- The header of a section that comes next leaves the fields as they are. -/
theorem Built.of_placed_section {s : Section} {n' : Node} (h : Built values given (s :: todo) n) (hs : ownFields s ≠ [])
    (htodo : ∀ t ∈ todo, ¬ t.path <+: s.path) (hplaced : Node.Placed s.path (.table .opened []) n n') :
    Built values given todo n' := by
  have hnew := h.fresh s List.mem_cons_self hs
  refine ⟨fun f => ?_, fun t u hu => ?_, fun t ht hown => ?_, ?_⟩
  · have hf : ¬ f.path <+: s.path := by
      rcases s.prefix_or_parts f with ⟨hpre, hne⟩ | hparts
      · exact fun hpre' => hne (hpre.eq_of_length_le hpre'.length_le)
      · exact hparts.1
    rw [hplaced.at?_of_not_prefix hnew hf, h.field]
  · by_cases heq : t.path = s.path
    · rw [heq, hplaced.self] at hu
      cases hu
      exact ⟨_, _, rfl, by decide⟩
    by_cases hpre : t.path <+: s.path
    · exact hplaced.way _ u hpre heq hu
    · rw [hplaced.at?_of_not_prefix hnew hpre] at hu
      exact h.sections t u hu
  · rw [hplaced.at?_of_not_prefix hnew (htodo t ht)]
    exact h.fresh t (List.mem_cons_of_mem _ ht) hown
  · exact hplaced.tidy h.tidy Node.tidy_nil (path_of_ownFields hs).2.2

theorem Built.openTable? {s : Section} (h : Built values given (s :: todo) n) (hs : ownFields s ≠ [])
    (htodo : ∀ t ∈ todo, ¬ t.path <+: s.path) :
    ∃ n', n.openTable? s.path = some n' ∧ Built values given todo n' := by
  have hfree : n.Free s.path := by
    refine ⟨h.fresh s List.mem_cons_self hs, fun q u hq _ hu => ?_⟩
    obtain ⟨t, rfl⟩ := exists_section_of_prefix hq
    exact h.sections t u hu
  obtain ⟨way, key, hpath⟩ : ∃ way key, s.path = way ++ [key] :=
    ⟨_, _, (List.dropLast_append_getLast (path_of_ownFields hs).1).symm⟩
  rw [hpath] at hfree
  obtain ⟨n', hn', hplaced⟩ := Node.exists_openTable? hfree
  rw [← hpath] at hn' hplaced
  exact ⟨n', hn', h.of_placed_section hs htodo hplaced⟩

theorem isBare_of_mem_path {f : Field} {k : String} (hk : k ∈ f.path) : IsBare k := by
  rw [path_eq_concat] at hk
  rcases List.mem_append.1 hk with hk | hk
  · have hown : f ∈ ownFields f.owner := List.mem_filter.2 ⟨f.mem_all, by simp⟩
    exact (path_of_ownFields (List.ne_nil_of_mem hown)).2.2 k hk
  · rw [List.mem_singleton.1 hk]
    exact isBare_key f

theorem isBare_of_mem_section {s : Section} {k : String} (hk : k ∈ s.path) : IsBare k := by
  have hall : ∀ s ∈ Section.all, ∀ k ∈ s.path, IsBare k := by
    decide +kernel
  exact hall s s.mem_all k hk

/-- The assignment to a field leaves all others as they are. -/
theorem Built.of_placed_field {f : Field} {v : Value} {n' : Node} (h : Built values given todo n)
    (htodo : ∀ t ∈ todo, ¬ t.path <+: f.owner.path) (hv : values f = some v) (htidy : (Node.leaf v).Tidy)
    (hplaced : Node.Placed f.path (.leaf v) n n') : Built values (given ++ [f]) todo n' := by
  refine ⟨h.field_concat ?_ fun g hg => ?_, fun t u hu => ?_, fun t ht hown => ?_, ?_⟩
  · rw [hplaced.self, hv]
    rfl
  · exact hplaced.others _ (Field.parts_of_ne (Ne.symm hg))
  · rcases t.prefix_or_parts f with ⟨hpre, hne⟩ | hparts
    · exact hplaced.way _ u hpre hne hu
    · rw [hplaced.others _ hparts] at hu
      exact h.sections t u hu
  · rcases t.prefix_or_parts f with ⟨hpre, hne⟩ | hparts
    · rw [path_eq_concat, List.prefix_concat_iff] at hpre
      rcases hpre with heq | hpre
      · exact absurd (heq.trans (path_eq_concat f).symm) hne
      · exact absurd hpre (htodo t ht)
    · rw [hplaced.others _ hparts]
      exact h.fresh t ht hown
  · exact hplaced.tidy h.tidy htidy fun k hk => isBare_of_mem_path hk

/-- An assignment to a field that is not given yet gives it its value. -/
theorem Built.assignAt? {f : Field} {v : Value} (h : Built values given todo n) (hf : f ∉ given)
    (htodo : ∀ t ∈ todo, ¬ t.path <+: f.owner.path) (hv : values f = some v) (htidy : (Node.leaf v).Tidy) :
    ∃ n', n.assignAt? f.owner.path [f.key] v = some n' ∧ Built values (given ++ [f]) todo n' := by
  have hfree : n.Free f.path := by
    refine ⟨by rw [h.field, if_neg hf], fun q u hq hne hu => ?_⟩
    obtain ⟨t, rfl⟩ := Field.exists_section hq hne
    exact h.sections t u hu
  rw [path_eq_concat] at hfree
  obtain ⟨n', hn', hplaced⟩ := Node.exists_assignAt? hfree v
  rw [← path_eq_concat] at hplaced
  exact ⟨n', hn', h.of_placed_field htodo hv htidy hplaced⟩

/-! ## All lines -/

/-- The assignments to the fields of a section, one after another. -/
theorem Built.fields (hvalues : ∀ f v, values f = some v → (Node.leaf v).Tidy) {s : Section}
    (htodo : ∀ t ∈ todo, ¬ t.path <+: s.path) (fs : List Field) : ∀ {given : List Field} {n : Node},
    Built values given todo n → (∀ f ∈ fs, f.owner = s) → (given ++ fs).Nodup →
      ∃ n', Built values (given ++ fs) todo n' ∧ ∀ sts,
        build? s.path n ((fs.filterMap fun f => (values f).map (.assign [f.key])) ++ sts) = build? s.path n' sts := by
  induction fs with
  | nil =>
    intro given n h _ _
    rw [List.append_nil]
    exact ⟨n, h, fun _ => rfl⟩
  | cons f fs ih =>
    intro given n h howner hnodup
    obtain ⟨rfl, howners⟩ := List.forall_mem_cons.1 howner
    have hf : f ∉ given := fun hmem => (List.nodup_append.1 hnodup).2.2 f hmem f List.mem_cons_self rfl
    rw [List.append_cons] at hnodup ⊢
    cases hv : values f with
    | none =>
      have hgiven : Built values (given ++ [f]) todo n := by
        refine { h with field := h.field_concat ?_ fun _ _ => rfl }
        rw [h.field, if_neg hf, hv]
        rfl
      obtain ⟨n', hn', hbuild⟩ := ih hgiven howners hnodup
      refine ⟨n', hn', fun sts => ?_⟩
      rw [List.filterMap_cons, hv]
      exact hbuild sts
    | some v =>
      obtain ⟨m, hm, hgiven⟩ := h.assignAt? hf htodo hv (hvalues f v hv)
      obtain ⟨n', hn', hbuild⟩ := ih hgiven howners hnodup
      refine ⟨n', hn', fun sts => ?_⟩
      rw [List.filterMap_cons, hv]
      change (n.assignAt? f.owner.path [f.key] v).bind _ = _
      rw [hm]
      exact hbuild sts

/-- The lines of sections, one after another. -/
theorem Built.run (hvalues : ∀ f v, values f = some v → (Node.leaf v).Tidy) (todo : List Section) :
    ∀ {given : List Field} {n : Node}, Built values given todo n → todo.Pairwise (fun s t => ¬ t.path <+: s.path) →
      (given ++ todo.flatMap ownFields).Nodup →
      ∃ n', Built values (given ++ todo.flatMap ownFields) [] n' ∧
        ∀ header, build? header n (todo.flatMap (sectionStatements values)) = some n' := by
  induction todo with
  | nil =>
    intro given n h _ _
    rw [List.flatMap_nil, List.append_nil]
    exact ⟨n, h, fun _ => rfl⟩
  | cons s todo ih =>
    intro given n h horder hnodup
    obtain ⟨htodo, horder⟩ := List.pairwise_cons.1 horder
    rw [List.flatMap_cons, ← List.append_assoc] at hnodup ⊢
    rw [List.flatMap_cons]
    cases hfields : ownFields s with
    | nil =>
      rw [hfields, List.append_nil] at hnodup
      have hskip : Built values given todo n := { h with fresh := fun t ht => h.fresh t (List.mem_cons_of_mem _ ht) }
      rw [sectionStatements, hfields, List.append_nil]
      exact ih hskip horder hnodup
    | cons f fs =>
      have hne : ownFields s ≠ [] := by
        rw [hfields]
        exact List.cons_ne_nil f fs
      obtain ⟨m, hm, hopened⟩ := h.openTable? hne htodo
      obtain ⟨m', hm', hassigned⟩ := hopened.fields hvalues htodo (ownFields s) (fun g hg => owner_of_mem_ownFields hg)
        (List.nodup_append.1 hnodup).1
      obtain ⟨n', hn', hbuild⟩ := ih hm' horder hnodup
      refine ⟨n', hfields ▸ hn', fun header => ?_⟩
      rw [sectionStatements, hfields]
      change (n.openTable? s.path).bind _ = _
      rw [hm]
      rw [hfields] at hassigned
      exact (hassigned _).trans (hbuild s.path)

/-- **The lines of all sections** make up a table where each field has its value. -/
theorem exists_build? (hvalues : ∀ f v, values f = some v → (Node.leaf v).Tidy) :
    ∃ n, build? [] .empty (Section.all.flatMap (sectionStatements values)) = some n ∧
      (∀ f, n.at? f.path = (values f).map .leaf) ∧ (∀ (s : Section) u, n.at? s.path = some u → u.Open) ∧ n.Tidy := by
  obtain ⟨n, hn, hbuild⟩ := (built_empty values).run hvalues Section.all pairwise_sections (by exact nodup_ownFields)
  refine ⟨n, hbuild [], fun f => ?_, hn.sections, hn.tidy⟩
  rw [hn.field, if_pos (by exact mem_flatMap_ownFields f)]

end AuthProxy.Toml
