import AuthProxy.Layer.Tree
import AuthProxy.Proofs.Configuration.Paths

/-!
# What stands at a path of keys

The view that the laws of layered trees are stated in: `at? path` is what stands in a tree at a path of keys, through
tables only. Altering a tree at a path changes what stands there (`at?_alterPath_self`), makes a table of everything on
the way (`at?_alterPath_prefix`), and leaves all paths that part from it as they were (`at?_alterPath_of_parts`).
-/

namespace AuthProxy.Layer.Tree

/-- What stands at a path of keys. -/
def at? : List String → Tree → Option Tree
  | [], t => some t
  | k :: path, t => (t.child? k).bind (at? path)

theorem at?_cons (k : String) (path : List String) (t : Tree) :
    t.at? (k :: path) = (t.child? k).bind (at? path) := rfl

theorem at?_singleton (k : String) (t : Tree) : t.at? [k] = t.child? k :=
  Option.bind_fun_some _

theorem at?_append (p q : List String) (t : Tree) : t.at? (p ++ q) = (t.at? p).bind (at? q) := by
  induction p generalizing t with
  | nil => rfl
  | cons k p ih =>
    rw [List.cons_append, at?_cons, at?_cons]
    cases t.child? k with
    | none => rfl
    | some u => exact ih u

/-- The nodes that are tables. -/
def IsTable (t : Tree) : Prop :=
  ∃ fromFile entries, t = .table fromFile entries

/-- Only tables have entries. -/
theorem isTable_of_child? {k : String} {t u : Tree} (h : t.child? k = some u) : t.IsTable := by
  cases t with
  | table b es => exact ⟨b, es, rfl⟩
  | nil => cases h
  | scalar b s => cases h
  | list b items => cases h

/-! ## Entries -/

theorem lookup_alter_self (k : String) (f : Tree → Tree) (es : Entries) :
    (alter k f es).lookup k = some (f ((es.lookup k).getD nil)) := by
  induction es with
  | nil => simp [alter]
  | cons e es ih =>
    obtain ⟨k', t⟩ := e
    by_cases h : k' = k
    · simp [alter, h]
    · have hne : (k == k') = false := beq_false_of_ne fun e => h e.symm
      rw [alter, if_neg h, List.lookup_cons, hne, List.lookup_cons, hne]
      exact ih

theorem lookup_alter_of_ne {k k' : String} (h : k' ≠ k) (f : Tree → Tree) (es : Entries) :
    (alter k f es).lookup k' = es.lookup k' := by
  induction es with
  | nil =>
    have hne : (k' == k) = false := beq_false_of_ne h
    simp [alter, List.lookup_cons, hne]
  | cons e es ih =>
    obtain ⟨j, t⟩ := e
    by_cases hj : j = k
    · have hne : (k' == j) = false := beq_false_of_ne (hj ▸ h)
      rw [alter, if_pos hj, List.lookup_cons, List.lookup_cons, hne]
    · rw [alter, if_neg hj, List.lookup_cons, List.lookup_cons, ih]

theorem child?_alterEntry_self (k : String) (f : Tree → Tree) (t : Tree) :
    (alterEntry k f t).child? k = some (f ((t.child? k).getD nil)) := by
  cases t with
  | table b es => exact lookup_alter_self k f es
  | nil => exact lookup_alter_self k f []
  | scalar b s => exact lookup_alter_self k f []
  | list b items => exact lookup_alter_self k f []

theorem child?_alterEntry_of_ne {k k' : String} (h : k' ≠ k) (f : Tree → Tree) (t : Tree) :
    (alterEntry k f t).child? k' = t.child? k' := by
  cases t with
  | table b es => exact lookup_alter_of_ne h f es
  | nil => exact lookup_alter_of_ne h f []
  | scalar b s => exact lookup_alter_of_ne h f []
  | list b items => exact lookup_alter_of_ne h f []

theorem isTable_alterEntry (k : String) (f : Tree → Tree) (t : Tree) : (alterEntry k f t).IsTable := by
  cases t <;> exact ⟨_, _, rfl⟩

/-! ## Paths -/

/-- A path of keys as a path of segments. -/
def keys (path : List String) : List Segment :=
  path.map .key

/-- What stands at the altered path. -/
theorem at?_alterPath_self (f : Tree → Tree) (p : List String) (t : Tree) :
    (alterPath f (keys p) t).at? p = some (f ((t.at? p).getD nil)) := by
  induction p generalizing t with
  | nil => rfl
  | cons k p ih =>
    have hnil : (at? p nil).getD nil = nil := by
      cases p <;> rfl
    change (alterEntry k (alterPath f (keys p)) t).at? (k :: p) = _
    rw [at?_cons, child?_alterEntry_self, Option.bind_some, ih, at?_cons]
    cases t.child? k with
    | none => rw [Option.getD_none, hnil]; rfl
    | some u => rfl

/-- Everything on the way to the altered path becomes a table. -/
theorem at?_alterPath_prefix (f : Tree → Tree) {p q : List String} (h : q <+: p) (hne : q ≠ p) (t : Tree) :
    ∃ u, (alterPath f (keys p) t).at? q = some u ∧ u.IsTable := by
  induction q generalizing p t with
  | nil =>
    obtain ⟨k, p, rfl⟩ := List.exists_cons_of_ne_nil (Ne.symm hne)
    exact ⟨_, rfl, isTable_alterEntry k _ t⟩
  | cons j q ih =>
    obtain ⟨k, p, rfl⟩ := List.exists_cons_of_ne_nil (fun e => by simp [e] at h : p ≠ [])
    obtain ⟨rfl, hq⟩ := List.cons_prefix_cons.1 h
    change ∃ u, (alterEntry j (alterPath f (keys p)) t).at? (j :: q) = some u ∧ u.IsTable
    rw [at?_cons, child?_alterEntry_self, Option.bind_some]
    exact ih hq (fun e => hne (by rw [e])) _

/-- Paths that part from the altered one lead where they did. -/
theorem at?_alterPath_of_parts (f : Tree → Tree) {p q : List String} (h : Parts p q) (t : Tree) :
    (alterPath f (keys p) t).at? q = t.at? q := by
  induction p generalizing q t with
  | nil => exact absurd (List.nil_prefix) h.1
  | cons k p ih =>
    cases q with
    | nil => exact absurd (List.nil_prefix) h.2
    | cons j q =>
      change (alterEntry k (alterPath f (keys p)) t).at? (j :: q) = _
      by_cases hj : j = k
      · subst hj
        have hparts : Parts p q :=
          ⟨fun e => h.1 (List.cons_prefix_cons.2 ⟨rfl, e⟩), fun e => h.2 (List.cons_prefix_cons.2 ⟨rfl, e⟩)⟩
        rw [at?_cons, at?_cons, child?_alterEntry_self, Option.bind_some, ih hparts]
        cases t.child? j with
        | none =>
          -- below a new entry nothing stands at a path of at least one key
          obtain ⟨i, q, rfl⟩ := List.exists_cons_of_ne_nil (fun e => hparts.2 (e ▸ List.nil_prefix) : q ≠ [])
          rfl
        | some u => rfl
      · rw [at?_cons, at?_cons, child?_alterEntry_of_ne hj]

end AuthProxy.Layer.Tree
