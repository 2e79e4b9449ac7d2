import AuthProxy.Proofs.Configuration.Gathering
import AuthProxy.Proofs.Layer.Documents

/-!
# Trees as mappings

The entries of a table have no order: trees are the same if every path of keys leads to the same node (`Tree.Same`), and then the
same is read from them (`readField_of_same`, `readConfiguration_of_same`). Values that are put at paths which part from each other
make the same mapping in any order (`same_putAll_of_perm`), since at such a path and below it stands what is put there, on the way
to one is a table (`top_at?_putAll`), and nothing else is touched (`at?_putAll_of_parts`).
-/

namespace AuthProxy.Layer

namespace Tree

/-- A node by itself: a table without its entries, and anything else as it is. -/
def top : Tree → Tree
  | table b _ => table b []
  | t => t

/-- Trees that are the same as mappings: a path of keys leads to the same node in both, or to none. In what order the entries of
    their tables come is no matter. -/
def Same (t u : Tree) : Prop :=
  ∀ path : List String, (t.at? path).map top = (u.at? path).map top

variable {t u : Tree}

theorem Same.refl (t : Tree) : Same t t :=
  fun _ => rfl

theorem Same.symm (h : Same t u) : Same u t :=
  fun path => (h path).symm

theorem isTable_of_top (h : t.top = u.top) (hu : u.IsTable) : t.IsTable := by
  obtain ⟨b, es, rfl⟩ := hu
  cases t with
  | table b' es' => exact ⟨b', es', rfl⟩
  | nil => cases h
  | scalar b' s => cases h
  | list b' items => cases h

/-- What stands at a path of the one tree stands there in the other, unless it is a table. -/
theorem Same.at?_of_not_isTable (h : Same t u) {p : List String} {w : Tree} (hw : u.at? p = some w) (hplain : ¬ w.IsTable) :
    t.at? p = some w := by
  have htop := h p
  rw [hw] at htop
  obtain ⟨v, hv, hvw⟩ := Option.map_eq_some_iff.1 htop
  rw [hv]
  cases v with
  | table b es => exact absurd (isTable_of_top hvw.symm ⟨b, es, rfl⟩) hplain
  | _ => cases w <;> first | exact congrArg some hvw | exact absurd ⟨_, _, rfl⟩ hplain

theorem Same.at?_eq_none (h : Same t u) {p : List String} (hp : u.at? p = none) : t.at? p = none := by
  have htop := h p
  rw [hp] at htop
  exact Option.map_eq_none_iff.1 htop

/-- Sections are tables in both trees. -/
theorem Sectional.of_same (ht : t.Sectional) (h : Same t u) : u.Sectional := by
  intro s w hw
  have htop := h s.path
  rw [hw] at htop
  obtain ⟨v, hv, hvw⟩ := Option.map_eq_some_iff.1 htop
  exact isTable_of_top hvw.symm (ht s v hv)

/-- What becomes of a node on the way to an altered path: a table, which is new unless there is one. -/
def passed (t : Option Tree) : Tree :=
  (t.getD nil).asTable.top

theorem passed_map_top (t : Option Tree) : passed (t.map top) = passed t := by
  cases t with
  | none => exact rfl
  | some t => cases t <;> exact rfl

theorem passed_some_passed (t : Option Tree) : passed (some (passed t)) = passed t := by
  cases t with
  | none => exact rfl
  | some t => cases t <;> exact rfl

theorem isTable_of_top_passed {u : Option Tree} (h : t.top = passed u) : t.IsTable := by
  obtain ⟨b, es, htable⟩ := isTable_asTable (u.getD nil)
  refine isTable_of_top (u := .table b es) ?_ ⟨b, es, rfl⟩
  rw [h, passed, htable]

theorem top_alterEntry (k : String) (f : Tree → Tree) (t : Tree) : (alterEntry k f t).top = t.asTable.top := by
  cases t <;> exact rfl

/-- What stands on the way to an altered path is altered at the rest of the path. -/
theorem at?_alterPath_append (f : Tree → Tree) (p q : List String) (t : Tree) :
    (alterPath f (keys (p ++ q)) t).at? p = some (alterPath f (keys q) ((t.at? p).getD nil)) := by
  induction p generalizing t with
  | nil => exact rfl
  | cons k p ih =>
    have hnil : (at? p nil).getD nil = nil := by
      cases p <;> exact rfl
    change (alterEntry k (alterPath f (keys (p ++ q))) t).at? (k :: p) = _
    rw [at?_cons, child?_alterEntry_self, Option.bind_some, ih, at?_cons]
    cases t.child? k with
    | none => rw [Option.getD_none, hnil]; exact rfl
    | some u => exact rfl

/-- The node at a path that does not lead through the altered one. -/
theorem top_at?_alterPath (f : Tree → Tree) {p q : List String} (h : ¬ p <+: q) (t : Tree) :
    ((alterPath f (keys p) t).at? q).map top = if q <+: p then some (passed (t.at? q)) else (t.at? q).map top := by
  by_cases hq : q <+: p
  · rw [if_pos hq]
    obtain ⟨r, rfl⟩ := hq
    rw [at?_alterPath_append]
    cases r with
    | nil => exact absurd (by rw [List.append_nil]) h
    | cons k r => exact congrArg some (top_alterEntry k (alterPath f (keys r)) _)
  · rw [if_neg hq, at?_alterPath_of_parts f ⟨h, hq⟩]

/-! ## Values at paths that part -/

/-- The tree with values put at paths of keys, one after another. -/
def putAll (es : List (List String × Tree)) (t : Tree) : Tree :=
  es.foldl (fun t e => putAt (keys e.1) e.2 t) t

variable {es es' : List (List String × Tree)}

theorem putAll_cons (e : List String × Tree) (es : List (List String × Tree)) (t : Tree) :
    putAll (e :: es) t = putAll es (putAt (keys e.1) e.2 t) := rfl

/-- Paths that part from those of all values lead where they did. -/
theorem at?_putAll_of_parts {q : List String} (h : ∀ e ∈ es, Parts e.1 q) (t : Tree) : (putAll es t).at? q = t.at? q := by
  induction es generalizing t with
  | nil => exact rfl
  | cons e es ih =>
    obtain ⟨he, hes⟩ := List.forall_mem_cons.1 h
    rw [putAll_cons, ih hes]
    exact at?_alterPath_of_parts _ he t

/-- At the path of a value stands what the value makes of the node that was there. -/
theorem at?_putAll_of_mem (hparts : es.Pairwise fun e e' => Parts e.1 e'.1) {e : List String × Tree} (he : e ∈ es) (t : Tree) :
    (putAll es t).at? e.1 = some (put e.2 ((t.at? e.1).getD nil)) := by
  induction es generalizing t with
  | nil => cases he
  | cons e' es ih =>
    obtain ⟨hfirst, hrest⟩ := List.pairwise_cons.1 hparts
    rw [putAll_cons]
    rcases List.mem_cons.1 he with rfl | he
    · rw [at?_putAll_of_parts fun e' he' => (hfirst e' he').symm]
      exact at?_alterPath_self _ _ t
    · rw [ih hrest he, putAt, at?_alterPath_of_parts _ (hfirst e he)]

/-- The node at a path that does not lead through that of a value: a table on the way to one, and else what it was. -/
theorem top_at?_putAll {q : List String} (h : ∀ e ∈ es, ¬ e.1 <+: q) (t : Tree) : ((putAll es t).at? q).map top =
    if ∃ e ∈ es, q <+: e.1 then some (passed (t.at? q)) else (t.at? q).map top := by
  induction es generalizing t with
  | nil =>
    rw [if_neg fun ⟨e, he, _⟩ => nomatch he]
    exact rfl
  | cons e es ih =>
    obtain ⟨he, hes⟩ := List.forall_mem_cons.1 h
    rw [putAll_cons, ih hes, ← passed_map_top]
    have hstep := top_at?_alterPath (put e.2) he t
    change ((putAt (keys e.1) e.2 t).at? q).map top = _ at hstep
    rw [hstep]
    by_cases hq : q <+: e.1
    · -- once it is a table, the others leave it one
      rw [if_pos hq, passed_some_passed, ite_self, if_pos ⟨e, List.mem_cons_self, hq⟩]
    · simp only [hq, if_false, passed_map_top, List.exists_mem_cons_iff, false_or]

/-- **Values at paths that part** make the same mapping in any order. -/
theorem same_putAll_of_perm (hparts : es.Pairwise fun e e' => Parts e.1 e'.1) (h : es'.Perm es) (t : Tree) :
    Same (putAll es' t) (putAll es t) := by
  intro q
  by_cases hq : ∃ e ∈ es, e.1 <+: q
  · -- at a path and below it stands what its own value makes
    obtain ⟨e, he, r, rfl⟩ := hq
    have hparts' : es'.Pairwise fun e e' => Parts e.1 e'.1 := (h.pairwise_iff fun h => h.symm).2 hparts
    rw [at?_append, at?_append, at?_putAll_of_mem hparts he, at?_putAll_of_mem hparts' (h.mem_iff.2 he)]
  · have hnot : ∀ e ∈ es, ¬ e.1 <+: q := fun e he hprefix => hq ⟨e, he, hprefix⟩
    rw [top_at?_putAll hnot, top_at?_putAll fun e he => hnot e (h.mem_iff.1 he)]
    simp only [h.mem_iff]

/-- Values that are no tables make the same mapping of trees that are the same. -/
theorem Same.putAll (h : Same t u) (hparts : es.Pairwise fun e e' => Parts e.1 e'.1) (hes : ∀ e ∈ es, ¬ e.2.IsTable) :
    Same (Tree.putAll es t) (Tree.putAll es u) := by
  intro q
  by_cases hq : ∃ e ∈ es, e.1 <+: q
  · obtain ⟨e, he, r, rfl⟩ := hq
    rw [at?_append, at?_append, at?_putAll_of_mem hparts he, at?_putAll_of_mem hparts he, put_of_not_isTable (hes e he),
      put_of_not_isTable (hes e he)]
  · have hnot : ∀ e ∈ es, ¬ e.1 <+: q := fun e he hprefix => hq ⟨e, he, hprefix⟩
    rw [top_at?_putAll hnot, top_at?_putAll hnot, ← passed_map_top (t.at? q), h q, passed_map_top]

/-! ## Reading from a mapping -/

/-- Trees that are the same differ, if at all, in the entries of tables. -/
theorem eq_or_tables_of_same (h : Same t u) : t = u ∨ ∃ b es es', t = table b es ∧ u = table b es' := by
  have htop : t.top = u.top := Option.some.inj (h [])
  cases t with
  | table b es =>
    obtain ⟨b', es', rfl⟩ := isTable_of_top htop.symm ⟨b, es, rfl⟩
    cases htop
    exact .inr ⟨b, es, es', rfl, rfl⟩
  | nil => cases u <;> first | exact .inl rfl | cases htop
  | scalar b s => cases u <;> first | exact .inl htop | cases htop
  | list b items => cases u <;> first | exact .inl htop | cases htop

/-- Nodes that are the same have the same value. -/
theorem value_of_same (h : Same t u) (file : Option String) (key : String) (k : Kind) :
    Located.value file ⟨t, key⟩ k = Located.value file ⟨u, key⟩ k := by
  obtain rfl | ⟨b, es, es', rfl, rfl⟩ := eq_or_tables_of_same h
  · exact rfl
  · cases b <;> cases k <;> exact rfl

/-- A route leads to nodes that are the same. -/
theorem follow_of_same (h : Same t u) (key : String) (route : List Step) :
    Located.follow ⟨t, key⟩ route = Located.follow ⟨u, key⟩ route ∨
      ∃ t' u' key', Located.follow ⟨t, key⟩ route = .ok (some ⟨t', key'⟩) ∧
        Located.follow ⟨u, key⟩ route = .ok (some ⟨u', key'⟩) ∧ Same t' u' := by
  induction route generalizing t u key with
  | nil => exact .inr ⟨t, u, key, rfl, rfl, h⟩
  | cons s r ih =>
    obtain rfl | ⟨b, es, es', rfl, rfl⟩ := eq_or_tables_of_same h
    · exact .inl rfl
    have hentry : ∀ path, ((es.lookup s.key).bind (at? path)).map top = ((es'.lookup s.key).bind (at? path)).map top :=
      fun path => h (s.key :: path)
    rw [Located.follow, Located.follow, Located.step_table, Located.step_table]
    cases hlookup : es.lookup s.key with
    | none =>
      rw [hlookup] at hentry
      cases hlookup' : es'.lookup s.key with
      | none => exact .inl rfl
      | some u' => rw [hlookup'] at hentry; cases hentry []
    | some t' =>
      rw [hlookup] at hentry
      cases hlookup' : es'.lookup s.key with
      | none => rw [hlookup'] at hentry; cases hentry []
      | some u' =>
        rw [hlookup'] at hentry
        exact ih hentry (Located.keyOf key s.key)

theorem readField_of_same (h : Same t u) (file : Option String) (f : Field) :
    readField file t f = readField file u f := by
  rw [readField, readField]
  rcases follow_of_same h "" f.route with heq | ⟨t', u', key, ht, hu, hsame⟩
  · rw [heq]
  · rw [ht, hu]
    exact congrArg (some <$> ·) (value_of_same hsame file key f.kind)

/-- **A configuration** is read from a tree as a mapping. -/
theorem readConfiguration_of_same (h : Same t u) (order : Field.Order) (file : Option String) :
    readConfiguration order file t = readConfiguration order file u := by
  rw [readConfiguration_eq_gather, readConfiguration_eq_gather, funext (readField_of_same h file)]

end Tree

end AuthProxy.Layer
