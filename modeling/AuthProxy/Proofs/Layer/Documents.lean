import AuthProxy.Loading.Sources
import AuthProxy.Proofs.Layer.Sections
import AuthProxy.Proofs.Toml.Standing
import Mathlib.Data.List.TakeWhile

/-!
# The tree of a document

A document whose keys at the top are plain makes a tree by being put onto nothing (`treeOfFile_eq_put`), and if its
sections are tables then so are those of the tree (`sectional_treeOfFile`).
-/

namespace AuthProxy

open Layer Toml

/-- A key without quotes is a path of one key. -/
theorem Layer.pathOfKey_of_isBare {key : String} (h : IsBare key) : pathOfKey key = [.key key] := by
  have hall : ∀ c ∈ key.toList, isNameChar c = true := h.2
  have htake : key.toList.takeWhile isNameChar = key.toList :=
    List.takeWhile_eq_self_iff.2 hall
  have hdrop : key.toList.dropWhile isNameChar = [] :=
    List.dropWhile_eq_nil_iff.2 hall
  have hne : key.toList.isEmpty = false := by
    rw [List.isEmpty_eq_false_iff]
    exact fun he => h.1 (String.toList_eq_nil_iff.1 he)
  simp only [pathOfKey, segments?, htake, hdrop, hne, Bool.false_eq_true, if_false, Option.map_some, Option.getD_some,
    String.ofList_toList]

namespace Layer.Tree

theorem ofTomlEntries_eq_map (es : Table) : ofTomlEntries es = es.map fun e => (e.1, ofToml e.2) := by
  induction es with
  | nil => rfl
  | cons e es ih => rw [ofTomlEntries, List.map_cons, ih]

/-! ## Putting a table onto a tree -/

/-- The table that entries are put into: the tree itself if it is one. -/
def asTable : Tree → Tree
  | table b es => table b es
  | _ => empty

theorem isTable_asTable (t : Tree) : t.asTable.IsTable := by
  cases t <;> exact ⟨_, _, rfl⟩

theorem child?_asTable (k : String) (t : Tree) : t.asTable.child? k = t.child? k := by
  cases t <;> rfl

theorem put_table (b : Bool) (es : Entries) (t : Tree) : put (table b es) t = putEntries es t.asTable := by
  cases t with
  | table b' es' => rw [put, asTable]
  | nil => rw [put, asTable] <;> rintro _ _ ⟨⟩
  | scalar b' s => rw [put, asTable] <;> rintro _ _ ⟨⟩
  | list b' items => rw [put, asTable] <;> rintro _ _ ⟨⟩

theorem isTable_putEntries (es : Entries) : ∀ {t : Tree}, t.IsTable → (putEntries es t).IsTable := by
  induction es with
  | nil => exact fun {t} h => by rwa [putEntries]
  | cons e es ih =>
    intro t h
    rw [putEntries]
    exact ih (isTable_alterEntry _ _ t)

section Standing

variable {P : Value → Prop} {Q : Tree → Prop}

mutual

/-- **What all values at a path of a document have in common**, that has in common what stands there in the tree that the
    document makes, if what the document is put onto has it too. -/
theorem at?_put_of_all (hPQ : ∀ v t, P v → Q (put (ofToml v) t)) : (v : Value) → {p : List String} → {t : Tree} →
    v.All P p → (p ≠ [] → ∀ u, t.at? p = some u → Q u) → ∀ u, (put (ofToml v) t).at? p = some u → Q u
  | v, [], t, hv, _ => by
    intro u hu
    cases hu
    exact hPQ v t hv
  | .table es, k :: p, t, hv, ht => by
    rw [ofToml, put_table]
    refine at?_putEntries_of_all hPQ es hv fun u hu => ht (by simp) u ?_
    rwa [at?_cons, child?_asTable] at hu
  | .flag _, _ :: _, _, _, _ | .integer _, _ :: _, _, _, _ | .float _, _ :: _, _, _, _ | .text _, _ :: _, _, _, _
  | .dateTime _, _ :: _, _, _, _ | .list _, _ :: _, _, _, _ => fun _ hu => nomatch hu

theorem at?_putEntries_of_all (hPQ : ∀ v t, P v → Q (put (ofToml v) t)) : (es : Table) → {k : String} →
    {p : List String} → {t : Tree} → (∀ e ∈ es, e.1 = k → e.2.All P p) →
    (∀ u, t.at? (k :: p) = some u → Q u) → ∀ u, (putEntries (ofTomlEntries es) t).at? (k :: p) = some u → Q u
  | [], _, _, _, _, ht => by
    rw [ofTomlEntries, putEntries]
    exact ht
  | (j, v) :: es, k, p, t, hes, ht => by
    obtain ⟨hv, hes⟩ := List.forall_mem_cons.1 hes
    rw [ofTomlEntries, putEntries]
    refine at?_putEntries_of_all hPQ es hes fun u hu => ?_
    rw [at?_cons] at hu
    by_cases hj : j = k
    · subst hj
      rw [child?_alterEntry_self, Option.bind_some] at hu
      refine at?_put_of_all hPQ v (hv rfl) (fun hp w hw => ?_) u hu
      cases he : t.child? j with
      | none =>
        obtain ⟨i, p, rfl⟩ := List.exists_cons_of_ne_nil hp
        rw [he] at hw
        cases hw
      | some t' =>
        rw [he] at hw
        exact ht w (by rw [at?_cons, he]; exact hw)
    · rw [child?_alterEntry_of_ne (Ne.symm hj)] at hu
      exact ht u (by rwa [at?_cons])

end

end Standing

mutual

/-- A value that is the one at a path of a document stands there in the tree that this makes, unless it is a table. -/
theorem at?_put_of_sole {w : Value} (hw : ¬ (ofToml w).IsTable) : (v : Value) → {p : List String} → {t : Tree} →
    Value.Sole w p v → (put (ofToml v) t).at? p = some (ofToml w)
  | v, [], t, h => by
    obtain rfl : v = w := h
    exact congrArg some (put_of_not_isTable hw t)
  | .table es, k :: p, t, h => by
    rw [ofToml, put_table]
    exact at?_putEntries_of_sole hw es h.2 (.inl h.1)
  | .flag _, _ :: _, _, h | .integer _, _ :: _, _, h | .float _, _ :: _, _, h | .text _, _ :: _, _, h
  | .dateTime _, _ :: _, _, h | .list _, _ :: _, _, h => by
    obtain ⟨e, he, -⟩ := h.1
    cases he

theorem at?_putEntries_of_sole {w : Value} (hw : ¬ (ofToml w).IsTable) : (es : Table) → {k : String} →
    {p : List String} → {t : Tree} → (∀ e ∈ es, e.1 = k → Value.Sole w p e.2) →
    ((∃ e ∈ es, e.1 = k) ∨ t.at? (k :: p) = some (ofToml w)) →
    (putEntries (ofTomlEntries es) t).at? (k :: p) = some (ofToml w)
  | [], k, p, t, _, h => by
    rw [ofTomlEntries, putEntries]
    rcases h with ⟨e, he, -⟩ | h
    · cases he
    · exact h
  | (j, v) :: es, k, p, t, hes, h => by
    obtain ⟨hv, hes⟩ := List.forall_mem_cons.1 hes
    rw [ofTomlEntries, putEntries]
    apply at?_putEntries_of_sole hw es hes
    by_cases hj : j = k
    · subst hj
      right
      rw [at?_cons, child?_alterEntry_self, Option.bind_some]
      exact at?_put_of_sole hw v (hv rfl)
    · rcases h with ⟨e, he, hk⟩ | h
      · left
        rcases List.mem_cons.1 he with rfl | he
        · exact absurd hk hj
        · exact ⟨e, he, hk⟩
      · right
        rwa [at?_cons, child?_alterEntry_of_ne (Ne.symm hj), ← at?_cons]

end

end Layer.Tree

/-! ## Whole documents -/

/-- A document with plain keys at the top and tables for its sections. -/
def Toml.Sectioned (t : Table) : Prop :=
  (∀ e ∈ t, IsBare e.1) ∧ ∀ s ∈ Section.all, (Value.table t).All Value.IsTable s.path

instance (t : Table) : Decidable (Sectioned t) :=
  inferInstanceAs (Decidable (_ ∧ _))

/-- A document with plain keys at the top makes the tree that it makes of nothing. -/
theorem Sources.treeOfFile_eq_put {t : Table} (h : ∀ e ∈ t, IsBare e.1) :
    treeOfFile t = .put (.ofToml (.table t)) .nil := by
  have hfold : ∀ (es : Table) (u : Tree), (∀ e ∈ es, IsBare e.1) →
      es.foldl (fun t e => .putAt (pathOfKey e.1) (.ofToml e.2) t) u = .putEntries (Tree.ofTomlEntries es) u := by
    intro es
    induction es with
    | nil =>
      intro u _
      rw [Tree.ofTomlEntries, Tree.putEntries]
      rfl
    | cons e es ih =>
      intro u hes
      obtain ⟨he, hes⟩ := List.forall_mem_cons.1 hes
      rw [Tree.ofTomlEntries, Tree.putEntries, List.foldl_cons, ih _ hes]
      rw [pathOfKey_of_isBare he]
      rfl
  rw [Tree.ofToml, Tree.put_table]
  exact hfold t .empty h

/-- What is the one value at a path of a document with plain keys at the top stands there in its tree. -/
theorem Sources.at?_treeOfFile {t : Table} (h : ∀ e ∈ t, IsBare e.1) {w : Value} (hw : ¬ (Tree.ofToml w).IsTable)
    {p : List String} (hp : Value.Sole w p (.table t)) : (treeOfFile t).at? p = some (.ofToml w) := by
  rw [treeOfFile_eq_put h]
  exact Tree.at?_put_of_sole hw (.table t) hp

/-- What all values at the path of a document with plain keys at the top have in common. -/
theorem Sources.at?_treeOfFile_of_all {t : Table} (h : ∀ e ∈ t, IsBare e.1) {P : Value → Prop} {Q : Tree → Prop}
    (hPQ : ∀ v t, P v → Q (.put (.ofToml v) t)) {p : List String} (hp : (Value.table t).All P p) {u : Tree}
    (hu : (treeOfFile t).at? p = some u) : Q u := by
  rw [treeOfFile_eq_put h] at hu
  refine Tree.at?_put_of_all hPQ _ hp (fun hne w hw => ?_) u hu
  obtain ⟨k, p, rfl⟩ := List.exists_cons_of_ne_nil hne
  cases hw

/-- **The tree of a document** has tables for sections if the document has. -/
theorem Sources.sectional_treeOfFile {t : Table} (h : Sectioned t) : (treeOfFile t).Sectional := by
  have htable : ∀ (v : Value) (u : Tree), v.IsTable → (Tree.put (.ofToml v) u).IsTable := by
    intro v u hv
    cases v with
    | table es =>
      rw [Tree.ofToml, Tree.put_table]
      exact Tree.isTable_putEntries _ u.isTable_asTable
    | _ => cases hv
  exact fun s u hu => at?_treeOfFile_of_all h.1 htable (h.2 s s.mem_all) hu

end AuthProxy
