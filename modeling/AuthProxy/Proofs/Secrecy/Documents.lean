import AuthProxy.Proofs.Secrecy.Loads

/-!
# Documents with the secrets hidden

A document can be hidden as it is written (`Toml.Table.hidden`). If its keys at the top are plain, the tree that it makes is then
the hidden tree (`hidden_treeOfFile`), so that files whose documents do not differ but in secrets agree
(`contentsAgree_of_alike`).
-/

namespace AuthProxy

open Layer Text

namespace Toml

/-- The value with the texts at the end of a route hidden. A date or time is a text in a tree, and hidden as one. -/
def Value.hideAt : List Step → Value → Value
  | [], .text s => .text (Configuration.hide s)
  | [], .dateTime s => .text (Configuration.hide s)
  | s :: r, .table es => .table (mapEntry s.key (hideAt r) es)
  | s :: r, .list items => .list (items.modify s.position (hideAt r))
  | _, v => v

/-- A document with its secrets hidden. -/
def Table.hidden (t : Table) : Table :=
  (secretFields.foldl (fun v f => v.hideAt f.route) (Value.table t)).entries

end Toml

namespace Layer.Tree

open Toml

theorem ofTomlEntries_mapEntry {f : Value → Value} {g : Tree → Tree} (h : ∀ v, g (ofToml v) = ofToml (f v)) (k : String)
    (es : Table) : mapEntry k g (ofTomlEntries es) = ofTomlEntries (mapEntry k f es) := by
  induction es with
  | nil => rw [mapEntry, ofTomlEntries, mapEntry]
  | cons e es ih =>
    obtain ⟨i, v⟩ := e
    rw [mapEntry, ofTomlEntries, ofTomlEntries, mapEntry, ih]
    by_cases hi : i = k
    · rw [if_pos hi, if_pos hi, h]
    · rw [if_neg hi, if_neg hi]

theorem ofTomlItems_modify {f : Value → Value} {g : Tree → Tree} (h : ∀ v, g (ofToml v) = ofToml (f v)) (items : List Value) :
    ∀ i, (ofTomlItems items).modify i g = ofTomlItems (items.modify i f) := by
  induction items with
  | nil =>
    intro i
    rw [List.modify_nil, ofTomlItems, List.modify_nil]
  | cons v items ih =>
    intro i
    cases i with
    | zero => rw [List.modify_zero_cons, ofTomlItems, ofTomlItems, List.modify_zero_cons, h]
    | succ i => rw [List.modify_succ_cons, ofTomlItems, ofTomlItems, List.modify_succ_cons, ih]

/-- A hidden value is the hidden tree. -/
theorem hideAt_ofToml (r : List Step) : ∀ v, hideAt r (ofToml v) = ofToml (v.hideAt r) := by
  induction r with
  | nil =>
    intro v
    cases v <;> simp only [Value.hideAt, ofToml, hideAt, hideText]
  | cons s r ih =>
    intro v
    cases v with
    | table es => rw [Value.hideAt, ofToml, ofToml, hideAt, ofTomlEntries_mapEntry ih]
    | list items => rw [Value.hideAt, ofToml, ofToml, hideAt, ofTomlItems_modify ih]
    | _ => simp only [Value.hideAt, ofToml, hideAt]

theorem asTable_hideText (t : Tree) : (hideText t).asTable = t.asTable := by
  cases t with
  | scalar b s => cases s <;> rfl
  | _ => rfl

theorem asTable_hideAt_cons (s : Step) (r : List Step) (t : Tree) :
    (hideAt (s :: r) t).asTable = hideAt (s :: r) t.asTable := by
  cases t <;> rfl

theorem hideText_of_isTable {t : Tree} (h : t.IsTable) : hideText t = t := by
  obtain ⟨b, es, rfl⟩ := h
  rfl

theorem not_isTable_hideAt {t : Tree} (h : ¬ t.IsTable) (r : List Step) : ¬ (hideAt r t).IsTable := by
  cases r with
  | nil => exact not_isTable_hideText h
  | cons s r =>
    cases t with
    | table b es => exact absurd ⟨b, es, rfl⟩ h
    | list b items => exact fun ⟨_, _, h⟩ => (nomatch h)
    | _ => exact h

theorem hideAt_put_of_not_isTable {v : Value} (hv : ¬ (ofToml v).IsTable) (r : List Step) (t : Tree) :
    hideAt r (put (ofToml v) t) = put (ofToml (v.hideAt r)) (hideAt r t) := by
  rw [← hideAt_ofToml, put_of_not_isTable hv, put_of_not_isTable (not_isTable_hideAt hv r)]

mutual

/-- **A hidden value put onto a hidden tree** makes the hidden tree. -/
theorem hideAt_put : (v : Value) → (r : List Step) → (t : Tree) →
    hideAt r (put (ofToml v) t) = put (ofToml (v.hideAt r)) (hideAt r t)
  | .table es, [], t => by
    have htable : (put (ofToml (.table es)) t).IsTable := by
      rw [ofToml, put_table]
      exact isTable_putEntries _ t.isTable_asTable
    have hkept : (Value.table es).hideAt [] = .table es := by
      simp only [Value.hideAt]
    rw [hkept, hideAt, hideText_of_isTable htable, hideAt, ofToml, put_table, put_table, asTable_hideText]
  | .table es, s :: r, t => by
    rw [ofToml, put_table, hideAt_putEntries es s r, Value.hideAt, ofToml, put_table, asTable_hideAt_cons]
  | .flag _, r, t | .integer _, r, t | .float _, r, t | .text _, r, t | .dateTime _, r, t | .list _, r, t =>
    hideAt_put_of_not_isTable (fun ⟨_, _, h⟩ => nomatch h) r t

theorem hideAt_putEntries : (es : Table) → (s : Step) → (r : List Step) → (t : Tree) →
    hideAt (s :: r) (putEntries (ofTomlEntries es) t) =
      putEntries (ofTomlEntries (mapEntry s.key (Value.hideAt r) es)) (hideAt (s :: r) t)
  | [], s, r, t => by
    rw [mapEntry, ofTomlEntries, putEntries, putEntries]
  | (k, v) :: es, s, r, t => by
    rw [ofTomlEntries, putEntries, hideAt_putEntries es s r, mapEntry, ofTomlEntries, putEntries]
    by_cases hk : k = s.key
    · subst hk
      rw [if_pos rfl, hideAt_alterEntry_self (hideAt_put v r)]
    · rw [if_neg hk, hideAt_alterEntry_of_ne hk]

end

end Layer.Tree

open Toml

theorem Toml.mapEntry_eq_map (k : String) (f : Value → Value) (es : Table) :
    mapEntry k f es = es.map fun e => (e.1, if e.1 = k then f e.2 else e.2) := by
  induction es with
  | nil => rfl
  | cons e es ih => rw [mapEntry, List.map_cons, ih]

/-- Along a route that starts with a key, a table is hidden entry by entry. -/
theorem Toml.Value.exists_hideAt_eq_map (r : List Step) : ∃ g : String → Value → Value, ∀ es : Table,
    (Value.table es).hideAt r = .table (es.map fun e => (e.1, g e.1 e.2)) := by
  cases r with
  | nil =>
    refine ⟨fun _ v => v, fun es => ?_⟩
    simp only [Value.hideAt, Prod.mk.eta, List.map_id']
  | cons s r =>
    refine ⟨fun k v => if k = s.key then v.hideAt r else v, fun es => ?_⟩
    rw [Value.hideAt, mapEntry_eq_map]

/-- **A document is hidden** entry by entry. -/
theorem Toml.exists_hidden_eq_map : ∃ g : String → Value → Value, ∀ t : Table,
    t.hidden = t.map fun e => (e.1, g e.1 e.2) := by
  have hfold : ∀ fs : List Field, ∃ g : String → Value → Value, ∀ es : Table,
      fs.foldl (fun v f => v.hideAt f.route) (Value.table es) = .table (es.map fun e => (e.1, g e.1 e.2)) := by
    intro fs
    induction fs with
    | nil => exact ⟨fun _ v => v, fun es => by simp only [List.foldl_nil, Prod.mk.eta, List.map_id']⟩
    | cons f fs ih =>
      obtain ⟨g, hg⟩ := Value.exists_hideAt_eq_map f.route
      obtain ⟨g', hg'⟩ := ih
      refine ⟨fun k v => g' k (g k v), fun es => ?_⟩
      rw [List.foldl_cons, hg, hg', List.map_map]
      rfl
  obtain ⟨g, hg⟩ := hfold secretFields
  refine ⟨g, fun t => ?_⟩
  rw [Table.hidden, hg]
  rfl

/-- **The tree of a document, hidden**, is that of the hidden document, if the keys at the top are plain. -/
theorem hidden_treeOfFile {t : Table} (h : ∀ e ∈ t, IsBare e.1) :
    (Sources.treeOfFile t).hidden = Tree.put (.ofToml (.table t.hidden)) .nil := by
  have hfold : ∀ (fs : List Field) (es : Table), ∃ es' : Table,
      fs.foldl (fun v f => v.hideAt f.route) (Value.table es) = .table es' ∧
      fs.foldl (fun t f => Tree.hideAt f.route t) (.put (.ofToml (.table es)) .nil) = .put (.ofToml (.table es')) .nil := by
    intro fs
    induction fs with
    | nil => exact fun es => ⟨es, rfl, rfl⟩
    | cons f fs ih =>
      intro es
      obtain ⟨g, hg⟩ := Value.exists_hideAt_eq_map f.route
      rw [List.foldl_cons, List.foldl_cons, Tree.hideAt_put, hg, Tree.hideAt_nil]
      exact ih _
  obtain ⟨es, hes, htree⟩ := hfold secretFields t
  have hhidden : t.hidden = es := by
    rw [Table.hidden, hes]
    rfl
  rw [hhidden, Sources.treeOfFile_eq_put h]
  exact htree

/-- Two documents that do not differ but in secrets: hidden, they make the same tree. -/
def Toml.Alike (t t' : Table) : Prop :=
  Tree.ofToml (.table t.hidden) = Tree.ofToml (.table t'.hidden)

instance (t t' : Table) : Decidable (Alike t t') :=
  inferInstanceAs (Decidable (Tree.ofToml _ = Tree.ofToml _))

theorem Toml.exists_alike_iff : ∃ g : String → Value → Tree, ∀ t t' : Table,
    Alike t t' ↔ (t.map fun e => (e.1, g e.1 e.2)) = t'.map fun e => (e.1, g e.1 e.2) := by
  obtain ⟨g, hg⟩ := exists_hidden_eq_map
  refine ⟨fun k v => .ofToml (g k v), fun t t' => ?_⟩
  rw [Alike, Tree.ofToml, Tree.ofToml, Tree.table.injEq, Tree.ofTomlEntries_eq_map, Tree.ofTomlEntries_eq_map, hg, hg,
    List.map_map, List.map_map]
  exact and_iff_right rfl

theorem Toml.Alike.keys {t t' : Table} (h : Alike t t') : t.map (·.1) = t'.map (·.1) := by
  obtain ⟨g, hg⟩ := exists_alike_iff
  have hmap := congrArg (List.map (·.1)) ((hg t t').1 h)
  rwa [List.map_map, List.map_map] at hmap

/-- Entries in two orders are the same if their keys come in one order, each of them once. -/
theorem eq_of_perm_of_keys {α β : Type} {es es' : List (α × β)} (hperm : es.Perm es') (hkeys : es.map (·.1) = es'.map (·.1))
    (hnodup : (es.map (·.1)).Nodup) : es = es' := by
  induction es generalizing es' with
  | nil => exact hperm.nil_eq
  | cons e es ih =>
    cases es' with
    | nil => exact absurd hperm.eq_nil (List.cons_ne_nil _ _)
    | cons e' es' =>
      obtain ⟨hkey, htail⟩ := List.cons.inj hkeys
      obtain ⟨hnew, hrest⟩ := List.nodup_cons.1 hnodup
      have he : e' = e := by
        rcases List.mem_cons.1 (hperm.mem_iff.2 List.mem_cons_self : e' ∈ e :: es) with he | he
        · exact he
        · exact absurd (hkey ▸ List.mem_map_of_mem he) hnew
      subst he
      rw [ih hperm.cons_inv htail hrest]

/-- Documents that do not differ but in secrets do not in any order of their keys. -/
theorem Toml.Alike.of_walk {t t' : Table} (h : Alike t t') (hnodup : (t.map (·.1)).Nodup) (w : Walk) :
    Alike (w.keys t) (w.keys t') := by
  obtain ⟨g, hg⟩ := exists_alike_iff
  have hkeys : ∀ es : Table, (es.map fun e => (e.1, g e.1 e.2)).map (·.1) = es.map (·.1) := by
    intro es
    rw [List.map_map]
    rfl
  refine (hg _ _).2 (eq_of_perm_of_keys ?_ ?_ ?_)
  · have hperm := (w.perm t).map fun e => (e.1, g e.1 e.2)
    rw [(hg t t').1 h] at hperm
    exact hperm.trans ((w.perm t').map _).symm
  · rw [hkeys, hkeys, w.keys_congr t t' h.keys]
  · rw [hkeys]
    exact ((w.perm t).map (·.1)).nodup_iff.2 hnodup

/-- **Documents that do not differ but in secrets** make contents agree, if their keys at the top are plain. -/
theorem contentsAgree_of_alike {content content' : Bytes} {t t' : Table} (ht : Sources.documentOf? content = some t)
    (ht' : Sources.documentOf? content' = some t') (hbare : ∀ e ∈ t, IsBare e.1) (h : Alike t t') :
    ContentsAgree (.ok content) (.ok content') := by
  have hbare' : ∀ e ∈ t', IsBare e.1 := by
    intro e he
    obtain ⟨e', he', heq⟩ := List.mem_map.1 (h.keys ▸ List.mem_map_of_mem he : e.1 ∈ t.map (·.1))
    exact heq ▸ hbare e' he'
  have hnodup : (t.map (·.1)).Nodup := by
    obtain ⟨hparse, -⟩ := Option.filter_eq_some_iff.1 ht
    cases distinct_of_parse? hparse with
    | plain h => exact absurd trivial h
    | table keys _ => exact keys
  refine .documents ht ht' h.keys fun w => ?_
  rw [hidden_treeOfFile fun e he => hbare e ((w.perm t).mem_iff.1 he),
    hidden_treeOfFile fun e he => hbare' e ((w.perm t').mem_iff.1 he), h.of_walk hnodup w]

end AuthProxy
