import AuthProxy.Proofs.Configuration.Paths
import AuthProxy.Proofs.Toml.Standing
import AuthProxy.Toml.Document

/-!
# Tables under construction by paths

What stands at a path of a table under construction, and what changes when a header or an assignment places a node there
(`Placed`, `exists_descend?`): it stands there, the tables on the way stay open, and all paths that part from it lead where
they did. The finished table has the finished nodes at their paths (`Tidy.at?_toValue`).
-/

namespace AuthProxy.Toml

namespace Node

/-- The entry of a key. -/
def child? (key : String) : Node → Option Node
  | table _ entries => entries.lookup key
  | _ => none

/-- What stands at a path of keys. -/
def at? : List String → Node → Option Node
  | [], n => some n
  | k :: path, n => (n.child? k).bind (at? path)

theorem at?_cons (k : String) (path : List String) (n : Node) : n.at? (k :: path) = (n.child? k).bind (at? path) := rfl

theorem at?_append (p q : List String) (n : Node) : n.at? (p ++ q) = (n.at? p).bind (at? q) := by
  induction p generalizing n with
  | nil => rfl
  | cons k p ih =>
    rw [List.cons_append, at?_cons, at?_cons]
    cases n.child? k with
    | none => rfl
    | some m => exact ih m

theorem at?_of_nil_entries {o : Origin} {p : List String} (h : p ≠ []) : (table o []).at? p = none := by
  obtain ⟨k, p, rfl⟩ := List.exists_cons_of_ne_nil h
  rfl

/-- A table that a header opened or implied. -/
def Open (n : Node) : Prop :=
  ∃ o entries, n = table o entries ∧ o ≠ .dotted

theorem lookup_put_self (k : String) (n : Node) (es : List (String × Node)) : (put k n es).lookup k = some n := by
  induction es with
  | nil => simp [put]
  | cons e es ih =>
    obtain ⟨k', m⟩ := e
    rw [put]
    split
    next h => simp [h]
    next h =>
      have hne : (k == k') = false := beq_false_of_ne fun e => h e.symm
      rw [List.lookup_cons, hne]
      exact ih

theorem lookup_put_of_ne {k k' : String} (h : k' ≠ k) (n : Node) (es : List (String × Node)) :
    (put k n es).lookup k' = es.lookup k' := by
  induction es with
  | nil =>
    have hne : (k' == k) = false := beq_false_of_ne h
    simp [put, List.lookup_cons, hne]
  | cons e es ih =>
    obtain ⟨j, m⟩ := e
    rw [put]
    split
    next hj =>
      have hne : (k' == j) = false := beq_false_of_ne (hj ▸ h)
      rw [List.lookup_cons, List.lookup_cons, hne]
    next hj => rw [List.lookup_cons, List.lookup_cons, ih]

/-- A node as it is built from lines: tables with distinct plain keys, and values that are no tables and fit 64 bits. -/
inductive Tidy : Node → Prop where
  | leaf {v : Value} (plain : ¬ v.IsTable) (fits : v.integersFit = true) : Tidy (leaf v)
  | table {o : Origin} {es : List (String × Node)} (distinct : (es.map (·.1)).Nodup) (bare : ∀ e ∈ es, IsBare e.1)
      (entries : ∀ e ∈ es, Tidy e.2) : Tidy (table o es)

theorem keys_put (k : String) (n : Node) (es : List (String × Node)) :
    (put k n es).map (·.1) = if k ∈ es.map (·.1) then es.map (·.1) else es.map (·.1) ++ [k] := by
  induction es with
  | nil => rfl
  | cons e es ih =>
    obtain ⟨k', m⟩ := e
    rw [put]
    by_cases h : k' = k
    · simp [h]
    · rw [if_neg h, List.map_cons, List.map_cons, ih]
      by_cases hmem : k ∈ es.map (·.1)
      · rw [if_pos hmem, if_pos (List.mem_cons_of_mem _ hmem)]
      · rw [if_neg hmem, if_neg (by simpa [Ne.symm h] using hmem)]
        rfl

/-- A key is never there twice. -/
theorem nodup_keys_put {es : List (String × Node)} (h : (es.map (·.1)).Nodup) (k : String) (n : Node) :
    ((put k n es).map (·.1)).Nodup := by
  rw [keys_put]
  split
  · exact h
  next hmem => exact List.nodup_append.2 ⟨h, by simp, by simpa using fun a b hab e => hmem (by simp_all)⟩

theorem mem_put {k : String} {n : Node} {es : List (String × Node)} {e : String × Node} (h : e ∈ put k n es) :
    e = (k, n) ∨ e ∈ es := by
  induction es with
  | nil => exact .inl (List.mem_singleton.1 h)
  | cons d es ih =>
    obtain ⟨k', m⟩ := d
    rw [put] at h
    split at h
    next hk =>
      rcases List.mem_cons.1 h with rfl | h
      · exact .inl (by rw [hk])
      · exact .inr (List.mem_cons_of_mem _ h)
    · rcases List.mem_cons.1 h with rfl | h
      · exact .inr (by simp)
      · exact (ih h).imp_right (List.mem_cons_of_mem _)

theorem Tidy.put {o : Origin} {es : List (String × Node)} (h : Tidy (.table o es)) {k : String} (hk : IsBare k) {n : Node}
    (hn : n.Tidy) : Tidy (.table o (Node.put k n es)) := by
  obtain - | ⟨distinct, bare, entries⟩ := h
  refine .table (nodup_keys_put distinct k n) (fun e he => ?_) fun e he => ?_
  · rcases mem_put he with rfl | he
    · exact hk
    · exact bare e he
  · rcases mem_put he with rfl | he
    · exact hn
    · exact entries e he

theorem Tidy.of_lookup {o : Origin} {es : List (String × Node)} (h : Tidy (.table o es)) {k : String} {n : Node}
    (hn : es.lookup k = some n) : n.Tidy := by
  obtain - | ⟨-, -, entries⟩ := h
  obtain ⟨es, es', rfl, -⟩ := List.lookup_eq_some_iff.1 hn
  exact entries (k, n) (by simp)

theorem tidy_nil {o : Origin} : (table o []).Tidy :=
  .table List.nodup_nil (List.forall_mem_nil _) (List.forall_mem_nil _)

/-! ## Placing a node at a path -/

/-- What comes of a node when another one is placed at a path where nothing stood. -/
structure Placed (path : List String) (x n n' : Node) : Prop where
  self : n'.at? path = some x
  others : ∀ q, Parts path q → n'.at? q = n.at? q
  way : ∀ q u, q <+: path → q ≠ path → n'.at? q = some u → u.Open
  tidy : n.Tidy → x.Tidy → (∀ k ∈ path, IsBare k) → n'.Tidy

/-- What is below a table with no entries is what is below no table. -/
theorem at?_getD_lookup (o : Origin) (es : List (String × Node)) (k : String) (q : List String) :
    (((es.lookup k).getD (table .implied [])).at? q).getD (table .implied []) =
      ((table o es).at? (k :: q)).getD (table .implied []) := by
  change _ = ((es.lookup k).bind (at? q)).getD (table .implied [])
  cases es.lookup k with
  | none => cases q <;> rfl
  | some m => rfl

theorem placed_singleton {o : Origin} (ho : o ≠ .dotted) (key : String) (x : Node) (es : List (String × Node)) :
    Placed [key] x (table o es) (table o (put key x es)) where
  self := by
    change ((put key x es).lookup key).bind (at? []) = some x
    rw [lookup_put_self]
    rfl
  others q h := by
    obtain ⟨k, q, rfl⟩ := List.exists_cons_of_ne_nil (fun e => h.2 (e ▸ List.nil_prefix) : q ≠ [])
    have hk : k ≠ key := fun e => h.1 (by simp [e])
    change ((put key x es).lookup k).bind (at? q) = (es.lookup k).bind (at? q)
    rw [lookup_put_of_ne hk]
  way q u hq hne hu := by
    cases q with
    | nil =>
      cases hu
      exact ⟨o, _, rfl, ho⟩
    | cons k q => exact absurd (List.IsPrefix.eq_of_length_le hq (by simp)) hne
  tidy hn hx hbare := hn.put (hbare key List.mem_cons_self) hx

/-- A table with no entries changes nothing but what is on the way to it. -/
theorem Placed.at?_of_not_prefix {o : Origin} {path q : List String} {n n' : Node} (h : Placed path (table o []) n n')
    (hnew : n.at? path = none) (hq : ¬ q <+: path) : n'.at? q = n.at? q := by
  by_cases hpre : path <+: q
  · obtain ⟨r, rfl⟩ := hpre
    have hr : r ≠ [] := fun e => hq (by rw [e, List.append_nil])
    rw [at?_append, at?_append, h.self, hnew, Option.bind_some, at?_of_nil_entries hr, Option.bind_none]
  · exact h.others q ⟨hpre, hq⟩

theorem Placed.cons {o : Origin} (ho : o ≠ .dotted) {k : String} {path : List String} {x m : Node}
    {es : List (String × Node)} (h : Placed path x ((es.lookup k).getD (table .implied [])) m) :
    Placed (k :: path) x (table o es) (table o (put k m es)) where
  self := by
    change ((put k m es).lookup k).bind (at? path) = some x
    rw [lookup_put_self]
    exact h.self
  others q hq := by
    obtain ⟨j, q, rfl⟩ := List.exists_cons_of_ne_nil (fun e => hq.2 (e ▸ List.nil_prefix) : q ≠ [])
    change ((put k m es).lookup j).bind (at? q) = (es.lookup j).bind (at? q)
    by_cases hj : j = k
    · subst hj
      have hparts : Parts path q :=
        ⟨fun e => hq.1 (List.cons_prefix_cons.2 ⟨rfl, e⟩), fun e => hq.2 (List.cons_prefix_cons.2 ⟨rfl, e⟩)⟩
      have hother := h.others q hparts
      rw [lookup_put_self, Option.bind_some, hother]
      cases es.lookup j with
      | none => exact at?_of_nil_entries fun e => hparts.2 (e ▸ List.nil_prefix)
      | some n => rfl
    · rw [lookup_put_of_ne hj]
  way q u hq hne hu := by
    cases q with
    | nil =>
      cases hu
      exact ⟨o, _, rfl, ho⟩
    | cons j q =>
      obtain ⟨rfl, hrest⟩ := List.cons_prefix_cons.1 hq
      change ((put j m es).lookup j).bind (at? q) = some u at hu
      rw [lookup_put_self] at hu
      exact h.way q u hrest (fun e => hne (by rw [e])) hu
  tidy hn hx hbare := by
    obtain ⟨hk, hbare⟩ := List.forall_mem_cons.1 hbare
    refine hn.put hk (h.tidy ?_ hx hbare)
    cases hm : es.lookup k with
    | none => exact tidy_nil
    | some m => exact hn.of_lookup hm

/-- **Descending by a header** to a table, to put an entry there, places it at its path. -/
theorem exists_descend? {f : Origin → List (String × Node) → Option Node} {key : String} {x : Node} (way : List String) :
    ∀ {n : Node}, (∀ q u, q <+: way → n.at? q = some u → u.Open) →
      (∀ o es, o ≠ .dotted → (n.at? way).getD (table .implied []) = table o es → f o es = some (table o (put key x es))) →
      ∃ n', n.descend? false f way = some n' ∧ Placed (way ++ [key]) x n n' := by
  induction way with
  | nil =>
    intro n hopen hf
    obtain ⟨o, es, rfl, ho⟩ := hopen [] n List.nil_prefix rfl
    exact ⟨_, hf o es ho rfl, placed_singleton ho key x es⟩
  | cons k way ih =>
    intro n hopen hf
    obtain ⟨o, es, rfl, ho⟩ := hopen [] n List.nil_prefix rfl
    have hbelow : ∀ q u, q <+: way → ((es.lookup k).getD (table .implied [])).at? q = some u → u.Open := by
      intro q u hq hu
      cases hk : es.lookup k with
      | none =>
        rw [hk] at hu
        cases q with
        | nil =>
          cases hu
          exact ⟨.implied, [], rfl, by decide⟩
        | cons j q => cases hu
      | some m =>
        rw [hk] at hu
        apply hopen (k :: q) u (List.cons_prefix_cons.2 ⟨rfl, hq⟩)
        change (es.lookup k).bind _ = _
        rw [hk]
        exact hu
    obtain ⟨m, hm, hplaced⟩ := ih hbelow fun o' es' ho' h' =>
      hf o' es' ho' (at?_getD_lookup o es k way ▸ h')
    refine ⟨_, ?_, hplaced.cons ho⟩
    simp only [descend?, hm, Option.bind_eq_bind, Option.bind_some, Bool.false_eq_true, if_false]

/-- Nothing stands at a path of a node, and tables that headers opened or implied are on the way. -/
structure Free (path : List String) (n : Node) : Prop where
  new : n.at? path = none
  way : ∀ q u, q <+: path → q ≠ path → n.at? q = some u → u.Open

variable {way : List String} {key : String} {n : Node}

theorem Free.open_of_prefix (h : Free (way ++ [key]) n) {q : List String} (hq : q <+: way) {u : Node} (hu : n.at? q = some u) :
    u.Open := by
  refine h.way q u (hq.trans (List.prefix_append way [key])) (fun e => ?_) hu
  have hlength := hq.length_le
  rw [e, List.length_append, List.length_singleton] at hlength
  omega

/-- The table at the end of the way has no entry of the key. -/
theorem Free.lookup_eq_none (h : Free (way ++ [key]) n) {o : Origin} {es : List (String × Node)}
    (hes : (n.at? way).getD (table .implied []) = table o es) : es.lookup key = none := by
  have hnew := h.new
  rw [at?_append] at hnew
  cases hway : n.at? way with
  | none =>
    rw [hway] at hes
    cases hes
    rfl
  | some m =>
    rw [hway, Option.getD_some] at hes
    rw [hway, hes] at hnew
    change (es.lookup key).bind some = none at hnew
    rwa [Option.bind_fun_some] at hnew

/-- **A header** at a free path places a table with no entries there. -/
theorem exists_openTable? (h : Free (way ++ [key]) n) :
    ∃ n', n.openTable? (way ++ [key]) = some n' ∧ Placed (way ++ [key]) (table .opened []) n n' := by
  rw [openTable?, List.getLast?_concat, Option.bind_eq_bind, Option.bind_some, List.dropLast_concat]
  refine exists_descend? way (fun q u hq hu => h.open_of_prefix hq hu) fun o es ho hes => ?_
  rw [h.lookup_eq_none hes]

/-- **An assignment** to a free path places the value there. -/
theorem exists_assignAt? (h : Free (way ++ [key]) n) (v : Value) :
    ∃ n', n.assignAt? way [key] v = some n' ∧ Placed (way ++ [key]) (leaf v) n n' := by
  refine exists_descend? way (fun q u hq hu => h.open_of_prefix hq hu) fun o es ho hes => ?_
  have hnew := h.lookup_eq_none hes
  have horigin : (o == Origin.dotted) = false := beq_false_of_ne ho
  simp [assign?, descend?, hnew, horigin]

end Node

/-! ## Finished tables -/

/-- What is found of entries whose values have been changed. -/
theorem lookup_map_snd {α β : Type} (f : α → β) (k : String) (es : List (String × α)) :
    (es.map fun e => (e.1, f e.2)).lookup k = (es.lookup k).map f := by
  induction es with
  | nil => rfl
  | cons e es ih =>
    rw [List.map_cons, List.lookup_cons, List.lookup_cons]
    cases k == e.1 with
    | true => rfl
    | false => exact ih

theorem integersFitEntries_of_forall {es : Table} (h : ∀ e ∈ es, e.2.integersFit = true) : integersFitEntries es = true := by
  induction es with
  | nil => rfl
  | cons e es ih =>
    obtain ⟨he, hes⟩ := List.forall_mem_cons.1 h
    rw [integersFitEntries, he, Bool.true_and]
    exact ih hes

namespace Node

theorem entriesToTable_eq_map (es : List (String × Node)) : entriesToTable es = es.map fun e => (e.1, e.2.toValue) := by
  induction es with
  | nil => rfl
  | cons e es ih => rw [entriesToTable, List.map_cons, ih]

theorem lookup_entriesToTable (k : String) (es : List (String × Node)) :
    (entriesToTable es).lookup k = (es.lookup k).map toValue := by
  rw [entriesToTable_eq_map, lookup_map_snd]

theorem keys_entriesToTable (es : List (String × Node)) : (entriesToTable es).map (·.1) = es.map (·.1) := by
  rw [entriesToTable_eq_map, List.map_map]
  rfl

/-- All integers of a tidy table fit 64 bits. -/
theorem Tidy.integersFit {n : Node} (h : n.Tidy) : n.toValue.integersFit = true := by
  induction h with
  | leaf _ fits => exact fits
  | table _ _ _ ih =>
    rw [toValue, Value.integersFit, entriesToTable_eq_map]
    exact integersFitEntries_of_forall (List.forall_mem_map.2 ih)

/-- The value of a tidy table has the values of its nodes at their paths. -/
theorem Tidy.at?_toValue (p : List String) : ∀ {n : Node}, n.Tidy → n.toValue.at? p = (n.at? p).map toValue := by
  induction p with
  | nil => exact fun {n} _ => rfl
  | cons k p ih =>
    intro n h
    rw [Value.at?, at?_cons]
    cases h with
    | leaf plain _ =>
      rw [toValue, Value.entries_of_not_isTable plain]
      rfl
    | @table o es distinct bare entries =>
      have hentries : (Node.table o es).toValue.entries = entriesToTable es := by
        rw [toValue]
        rfl
      rw [hentries, lookup_entriesToTable]
      change _ = ((es.lookup k).bind _).map _
      cases hm : es.lookup k with
      | none => rfl
      | some m => exact ih ((Tidy.table (o := o) distinct bare entries).of_lookup hm)

end Node

end AuthProxy.Toml
