import AuthProxy.Proofs.Layer.Mappings
import AuthProxy.Proofs.Toml.Distinct

/-!
# Documents in any order

The keys at the top of a document are put one after another. If they are paths of keys that part from each other (`Toml.Apart`), as
plain keys are (`Toml.apart_of_isBare`), then the document makes the same mapping in any order (`Toml.Apart.same_treeOfFile`), and
memory holds it (`Toml.Apart.fits`).
-/

namespace AuthProxy

open Layer Toml

namespace Layer

/-- The keys on a path. -/
def names (path : List Segment) : List String :=
  path.filterMap fun
    | .key k => some k
    | .index _ => none

end Layer

/-- The keys at the top of a document are paths of keys, of which no one leads through another. -/
def Toml.Apart (t : Table) : Prop :=
  (∀ e ∈ t, pathOfKey e.1 = Tree.keys (names (pathOfKey e.1))) ∧
    t.Pairwise fun e e' => Parts (names (pathOfKey e.1)) (names (pathOfKey e'.1))

instance (t : Table) : Decidable (Apart t) :=
  inferInstanceAs (Decidable (_ ∧ _))

theorem names_pathOfKey_of_isBare {key : String} (h : IsBare key) : names (pathOfKey key) = [key] := by
  rw [pathOfKey_of_isBare h]
  rfl

/-- **Plain keys** that are distinct are apart. -/
theorem Toml.apart_of_isBare {t : Table} (hbare : ∀ e ∈ t, IsBare e.1) (hkeys : (t.map (·.1)).Nodup) : Apart t := by
  refine ⟨fun e he => ?_, ?_⟩
  · rw [names_pathOfKey_of_isBare (hbare e he), pathOfKey_of_isBare (hbare e he)]
    rfl
  · rw [List.Nodup, List.pairwise_map] at hkeys
    refine hkeys.imp_of_mem fun {e e'} he he' hne => ?_
    rw [names_pathOfKey_of_isBare (hbare e he), names_pathOfKey_of_isBare (hbare e' he')]
    exact parts_cons_of_ne hne [] []

theorem Toml.Value.Distinct.apart {t : Table} (h : (Value.table t).Distinct) (hbare : ∀ e ∈ t, IsBare e.1) : Apart t := by
  cases h with
  | plain h => exact absurd trivial h
  | table keys _ => exact apart_of_isBare hbare keys

/-- Memory holds what keys without indexes lead to. -/
theorem Sources.fits_of_keys {room : Nat} {t : Table} (h : ∀ e ∈ t, ∃ p, pathOfKey e.1 = Tree.keys p) : fits room t = true := by
  rw [fits, List.all_eq_true]
  intro e he
  obtain ⟨p, hp⟩ := h e he
  dsimp only
  rw [hp, List.all_eq_true]
  rintro s hs
  obtain ⟨k, -, rfl⟩ := List.mem_map.1 hs
  rfl

theorem Sources.fits_of_isBare {room : Nat} {t : Table} (h : ∀ e ∈ t, IsBare e.1) : fits room t = true :=
  fits_of_keys fun e he => ⟨[e.1], pathOfKey_of_isBare (h e he)⟩

namespace Toml.Apart

variable {t t' : Table} (h : Apart t)

include h

theorem fits {room : Nat} : Sources.fits room t = true :=
  Sources.fits_of_keys fun e he => ⟨_, h.1 e he⟩

theorem of_perm (hperm : t'.Perm t) : Apart t' :=
  ⟨fun e he => h.1 e (hperm.mem_iff.1 he), (hperm.pairwise_iff fun h => h.symm).2 h.2⟩

/-- The tree of the document is made of values at the paths of its keys. -/
theorem treeOfFile_eq : Sources.treeOfFile t = Tree.putAll (t.map fun e => (names (pathOfKey e.1), .ofToml e.2)) .empty := by
  have hput : ∀ (es : Table) (u : Tree), (∀ e ∈ es, pathOfKey e.1 = Tree.keys (names (pathOfKey e.1))) →
      es.foldl (fun t e => .putAt (pathOfKey e.1) (.ofToml e.2) t) u =
        Tree.putAll (es.map fun e => (names (pathOfKey e.1), .ofToml e.2)) u := by
    intro es
    induction es with
    | nil => exact fun u _ => rfl
    | cons e es ih =>
      intro u hes
      obtain ⟨he, hes⟩ := List.forall_mem_cons.1 hes
      rw [List.foldl_cons, List.map_cons, Tree.putAll_cons, ih _ hes, ← he]
  exact hput t .empty h.1

/-- **A document whose keys are apart** makes the same mapping in any order. -/
theorem same_treeOfFile (hperm : t'.Perm t) : (Sources.treeOfFile t').Same (Sources.treeOfFile t) := by
  rw [h.treeOfFile_eq, (h.of_perm hperm).treeOfFile_eq]
  refine Tree.same_putAll_of_perm ?_ (hperm.map _) .empty
  rw [List.pairwise_map]
  exact h.2

end Toml.Apart

end AuthProxy
