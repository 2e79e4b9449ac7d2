import AuthProxy.Proofs.Toml.Nodes

/-!
# No key is written twice

A table under construction never has a key twice: an entry is put in the place of the one of its key (`Node.nodup_keys_put`), at
whatever path (`Node.Distinct.descend?`). Inline tables are made the same way (`distinct_of_readValue?`), so that all tables that
keys lead to in a document have distinct keys (`distinct_of_parse?`).
-/

namespace AuthProxy.Toml

/-- No table that keys lead to has a key twice. -/
inductive Value.Distinct : Value → Prop where
  | plain {v : Value} (h : ¬ v.IsTable) : Distinct v
  | table {es : Table} (keys : (es.map (·.1)).Nodup) (entries : ∀ e ∈ es, Distinct e.2) : Distinct (.table es)

theorem Value.Distinct.of_lookup {es : Table} (h : Distinct (.table es)) {k : String} {v : Value} (hv : es.lookup k = some v) :
    v.Distinct := by
  cases h with
  | plain h => exact absurd trivial h
  | table _ entries =>
    obtain ⟨es, es', rfl, -⟩ := List.lookup_eq_some_iff.1 hv
    exact entries (k, v) (by simp)

namespace Node

/-- No table under construction that keys lead to has a key twice. -/
inductive Distinct : Node → Prop where
  | leaf {v : Value} (h : v.Distinct) : Distinct (leaf v)
  | table {o : Origin} {es : List (String × Node)} (keys : (es.map (·.1)).Nodup) (entries : ∀ e ∈ es, Distinct e.2) :
      Distinct (table o es)
  | series {complete : List Value} {es : List (String × Node)} : Distinct (series complete es)

theorem distinct_nil {o : Origin} : (table o []).Distinct :=
  .table List.nodup_nil (List.forall_mem_nil _)

theorem Distinct.of_lookup {o : Origin} {es : List (String × Node)} (h : Distinct (.table o es)) {k : String} {n : Node}
    (hn : es.lookup k = some n) : n.Distinct := by
  obtain - | ⟨-, entries⟩ := h
  obtain ⟨es, es', rfl, -⟩ := List.lookup_eq_some_iff.1 hn
  exact entries (k, n) (by simp)

theorem Distinct.put {o : Origin} {es : List (String × Node)} (h : Distinct (.table o es)) (k : String) {n : Node}
    (hn : n.Distinct) (o' : Origin) : Distinct (.table o' (Node.put k n es)) := by
  obtain - | ⟨keys, entries⟩ := h
  refine .table (nodup_keys_put keys k n) fun e he => ?_
  rcases mem_put he with rfl | he
  · exact hn
  · exact entries e he

theorem Tidy.distinct {n : Node} (h : n.Tidy) : n.Distinct := by
  induction h with
  | leaf plain _ => exact .leaf (.plain plain)
  | table keys _ _ ih => exact .table keys ih

theorem Distinct.toValue {n : Node} (h : n.Distinct) : n.toValue.Distinct := by
  induction h with
  | leaf h => exact h
  | @table o es keys _ ih =>
    rw [Node.toValue]
    refine .table (by rwa [keys_entriesToTable]) fun e he => ?_
    rw [entriesToTable_eq_map] at he
    obtain ⟨d, hd, rfl⟩ := List.mem_map.1 he
    exact ih d hd
  | series =>
    rw [Node.toValue]
    exact .plain id

/-! ## Additions to a table -/

section Descending

variable {byKey : Bool} {f : Origin → List (String × Node) → Option Node}

/-- Descending to a key of a table changes the entry of that key. -/
theorem exists_of_descend?_cons {k : String} {path : List String} {o : Origin} {es : List (String × Node)} {n' : Node}
    (h : (Node.table o es).descend? byKey f (k :: path) = some n') : ∃ o' m,
      ((es.lookup k).getD (.table o' [])).descend? byKey f path = some m ∧ n' = .table o (Node.put k m es) := by
  rw [Node.descend?] at h
  split at h
  · split at h
    · cases h
    · obtain ⟨m, hm, h⟩ := Option.bind_eq_some_iff.1 h
      cases h
      exact ⟨_, m, hm, rfl⟩
  · obtain ⟨m, hm, h⟩ := Option.bind_eq_some_iff.1 h
    cases h
    exact ⟨_, m, hm, rfl⟩

theorem exists_of_descend?_series {path : List String} {complete : List Value} {es : List (String × Node)} {n' : Node}
    (h : (Node.series complete es).descend? byKey f path = some n') : ∃ es', n' = .series complete es' := by
  cases path with
  | nil =>
    rw [Node.descend?] at h
    split at h
    · cases h
      exact ⟨_, rfl⟩
    · cases h
  | cons k path =>
    rw [Node.descend?] at h
    split at h
    · split at h
      · cases h
      · obtain ⟨m, -, h⟩ := Option.bind_eq_some_iff.1 h
        cases h
        exact ⟨_, rfl⟩
    · obtain ⟨m, -, h⟩ := Option.bind_eq_some_iff.1 h
      cases h
      exact ⟨_, rfl⟩

/-- What is done to the table at a path keeps keys distinct, if it does so there. -/
theorem Distinct.descend? (hf : ∀ o es n', (Node.table o es).Distinct → f o es = some n' → n'.Distinct) (path : List String) :
    ∀ {n n' : Node}, n.Distinct → n.descend? byKey f path = some n' → n'.Distinct := by
  induction path with
  | nil =>
    intro n n' hn h
    cases n with
    | leaf v => cases h
    | table o es => exact hf o es n' hn h
    | series complete es =>
      obtain ⟨es', rfl⟩ := exists_of_descend?_series h
      exact .series
  | cons k path ih =>
    intro n n' hn h
    cases n with
    | leaf v => cases h
    | table o es =>
      obtain ⟨o', m, hm, rfl⟩ := exists_of_descend?_cons h
      refine hn.put k (ih ?_ hm) o
      cases hk : es.lookup k with
      | none => exact distinct_nil
      | some child => exact hn.of_lookup hk
    | series complete es =>
      obtain ⟨es', rfl⟩ := exists_of_descend?_series h
      exact .series

end Descending

variable {n n' : Node} {path : List String}

theorem Distinct.assign? (hn : n.Distinct) {v : Value} (hv : v.Distinct) (h : n.assign? path v = some n') : n'.Distinct := by
  obtain ⟨key, -, h⟩ := Option.bind_eq_some_iff.1 h
  refine Distinct.descend? (fun o es m hes hm => ?_) path.dropLast hn h
  split at hm
  · cases hm
  · cases hm
    exact hes.put key (.leaf hv) o

theorem Distinct.openTable? (hn : n.Distinct) (h : n.openTable? path = some n') : n'.Distinct := by
  obtain ⟨key, -, h⟩ := Option.bind_eq_some_iff.1 h
  refine Distinct.descend? (fun o es m hes hm => ?_) path.dropLast hn h
  split at hm
  · cases hm
    exact hes.put key distinct_nil o
  next inner hinner =>
    cases hm
    obtain - | ⟨keys, entries⟩ := hes.of_lookup hinner
    exact hes.put key (.table keys entries) o
  · cases hm

theorem Distinct.openSeries? (hn : n.Distinct) (h : n.openSeries? path = some n') : n'.Distinct := by
  obtain ⟨key, -, h⟩ := Option.bind_eq_some_iff.1 h
  refine Distinct.descend? (fun o es m hes hm => ?_) path.dropLast hn h
  split at hm
  · cases hm
    exact hes.put key .series o
  · cases hm
    exact hes.put key .series o
  · cases hm

theorem Distinct.assignAt? {header : List String} (hn : n.Distinct) {v : Value} (hv : v.Distinct)
    (h : n.assignAt? header path v = some n') : n'.Distinct :=
  Distinct.descend? (fun _ _ _ hes hm => hes.assign? hv hm) header hn h

end Node

/-! ## Values and statements -/

theorem not_isTable_of_tokenValue? {token : List Char} {v : Value} (h : tokenValue? token = some v) : ¬ v.IsTable := by
  unfold tokenValue? at h
  split at h
  · cases h
    exact id
  split at h
  · cases h
    exact id
  split at h
  · cases h
    exact id
  · cases h
    exact id
  · cases h
    exact id
  · cases h

/-- An inline table that is read has distinct keys, and so have those within it. -/
theorem distinct_of_readers (fuel : Nat) :
    (∀ {room : Nat} {s r : List Char} {v : Value}, readValue? fuel room s = some (v, r) → v.Distinct) ∧
      ∀ {room : Nat} {s r : List Char} {n n' : Node}, n.Distinct → readEntries? fuel room n s = some (n', r) → n'.Distinct := by
  induction fuel with
  | zero => exact ⟨fun h => (nomatch h), fun _ h => (nomatch h)⟩
  | succ fuel ih =>
    obtain ⟨ihvalue, ihentries⟩ := ih
    refine ⟨fun {room s r v} h => ?_, fun {room s r n n'} hn h => ?_⟩
    · unfold readValue? at h
      split at h
      · split at h
        · cases h
        · obtain ⟨_, -, h⟩ := Option.map_eq_some_iff.1 h
          cases h
          exact .plain id
      · split at h
        · cases h
        · obtain ⟨⟨n, r'⟩, hn, h⟩ := Option.map_eq_some_iff.1 h
          cases h
          exact (ihentries Node.distinct_nil hn).toValue
      · obtain ⟨_, -, h⟩ := Option.map_eq_some_iff.1 h
        cases h
        exact .plain id
      · obtain ⟨_, -, h⟩ := Option.map_eq_some_iff.1 h
        cases h
        exact .plain id
      · obtain ⟨v', hv, h⟩ := Option.map_eq_some_iff.1 h
        cases h
        exact .plain (not_isTable_of_tokenValue? hv)
    · unfold readEntries? at h
      split at h
      · cases h
        exact hn
      · obtain ⟨⟨path, r₁⟩, -, h⟩ := Option.bind_eq_some_iff.1 h
        obtain ⟨r₂, -, h⟩ := Option.bind_eq_some_iff.1 h
        obtain ⟨⟨v, r₃⟩, hv, h⟩ := Option.bind_eq_some_iff.1 h
        obtain ⟨m, hm, h⟩ := Option.bind_eq_some_iff.1 h
        have hdistinct : m.Distinct := hn.assign? (ihvalue hv) hm
        split at h
        · exact ihentries hdistinct h
        · cases h
          exact hdistinct
        · cases h

theorem distinct_of_readValue? {fuel room : Nat} {s r : List Char} {v : Value} (h : readValue? fuel room s = some (v, r)) :
    v.Distinct :=
  (distinct_of_readers fuel).1 h

/-- The value of an assignment has distinct keys. -/
def Statement.Distinct : Statement → Prop
  | .assign _ v => v.Distinct
  | _ => True

theorem distinct_of_readStatement? {s r : List Char} {st : Statement} (h : readStatement? s = some (st, r)) : st.Distinct := by
  unfold readStatement? at h
  split at h
  · obtain ⟨_, -, h⟩ := Option.bind_eq_some_iff.1 h
    obtain ⟨_, -, h⟩ := Option.bind_eq_some_iff.1 h
    obtain ⟨_, -, h⟩ := Option.bind_eq_some_iff.1 h
    cases h
    trivial
  · obtain ⟨_, -, h⟩ := Option.bind_eq_some_iff.1 h
    obtain ⟨_, -, h⟩ := Option.bind_eq_some_iff.1 h
    cases h
    trivial
  · obtain ⟨_, -, h⟩ := Option.bind_eq_some_iff.1 h
    obtain ⟨_, -, h⟩ := Option.bind_eq_some_iff.1 h
    obtain ⟨_, hv, h⟩ := Option.bind_eq_some_iff.1 h
    cases h
    exact distinct_of_readValue? hv

theorem distinct_of_readStatements? (fuel : Nat) : ∀ {s : List Char} {sts : List Statement},
    readStatements? fuel s = some sts → ∀ st ∈ sts, st.Distinct := by
  induction fuel with
  | zero => exact fun h => (nomatch h)
  | succ fuel ih =>
    intro s sts h
    unfold readStatements? at h
    split at h
    · cases h
      exact List.forall_mem_nil _
    · obtain ⟨⟨st, r⟩, hst, h⟩ := Option.bind_eq_some_iff.1 h
      obtain ⟨r', -, h⟩ := Option.bind_eq_some_iff.1 h
      obtain ⟨rest, hrest, h⟩ := Option.bind_eq_some_iff.1 h
      cases h
      exact List.forall_mem_cons.2 ⟨distinct_of_readStatement? hst, ih hrest⟩

theorem distinct_of_statements? {s : List Char} {sts : List Statement} (h : statements? s = some sts) :
    ∀ st ∈ sts, st.Distinct := by
  rw [statements?] at h
  split at h
  · exact distinct_of_readStatements? _ h
  · cases h

/-! ## Documents -/

/-- Statements keep the keys of what they are added to distinct. -/
theorem distinct_of_build? {sts : List Statement} (hsts : ∀ st ∈ sts, st.Distinct) :
    ∀ {header : List String} {n n' : Node}, n.Distinct → build? header n sts = some n' → n'.Distinct := by
  induction sts with
  | nil =>
    intro header n n' hn h
    cases h
    exact hn
  | cons st sts ih =>
    obtain ⟨hst, hrest⟩ := List.forall_mem_cons.1 hsts
    intro header n n' hn h
    cases st with
    | table path =>
      obtain ⟨m, hm, h⟩ := Option.bind_eq_some_iff.1 h
      exact ih hrest (hn.openTable? hm) h
    | series path =>
      obtain ⟨m, hm, h⟩ := Option.bind_eq_some_iff.1 h
      exact ih hrest (hn.openSeries? hm) h
    | assign path v =>
      obtain ⟨m, hm, h⟩ := Option.bind_eq_some_iff.1 h
      exact ih hrest (hn.assignAt? hst hm) h

/-- **The tables of a document** have no key twice. -/
theorem distinct_of_parse? {s : List Char} {t : Table} (h : parse? s = some t) : (Value.table t).Distinct := by
  obtain ⟨sts, hsts, h⟩ := Option.bind_eq_some_iff.1 h
  obtain ⟨n, hn, h⟩ := Option.bind_eq_some_iff.1 h
  split at h
  next o es =>
    cases h
    have hdistinct : (Node.table o es).Distinct := distinct_of_build? (distinct_of_statements? hsts) Node.distinct_nil hn
    have hvalue := hdistinct.toValue
    rwa [Node.toValue] at hvalue
  · cases h

end AuthProxy.Toml
