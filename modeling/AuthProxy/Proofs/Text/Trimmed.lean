import AuthProxy.Text.Blank
import Mathlib.Data.List.Basic
import Mathlib.Data.List.TakeWhile

/-!
# Trimmed texts

A text is what trimming leaves of it with blanks around that (`exists_trim`), and they are cut off again wherever they are put
(`trim_append_append`).
-/

namespace AuthProxy.Text

variable {s u v : List Char}

/-- A text is what remains of it between its blanks. -/
theorem exists_trim (s : List Char) :
    ∃ u v, s = u ++ trim s ++ v ∧ (∀ c ∈ u, isBlank c = true) ∧ ∀ c ∈ v, isBlank c = true := by
  have hblank : ∀ t : List Char, ∀ c ∈ t.takeWhile isBlank, isBlank c = true := fun t =>
    List.all_eq_true.1 List.all_takeWhile
  have hstart : s = s.takeWhile isBlank ++ trimStart s := List.takeWhile_append_dropWhile.symm
  have hend : trimStart s = trim s ++ ((trimStart s).reverse.takeWhile isBlank).reverse := by
    rw [trim, trimEnd, ← List.reverse_append, List.takeWhile_append_dropWhile, List.reverse_reverse]
  refine ⟨s.takeWhile isBlank, ((trimStart s).reverse.takeWhile isBlank).reverse, ?_, hblank s, fun c hc => ?_⟩
  · rw [List.append_assoc, ← hend, ← hstart]
  · exact hblank _ c (List.mem_reverse.1 hc)

theorem trim_eq_nil_iff : trim s = [] ↔ ∀ c ∈ s, isBlank c = true := by
  constructor
  · intro h
    obtain ⟨u, v, hs, hu, hv⟩ := exists_trim s
    rw [h, List.append_nil] at hs
    intro c hc
    rw [hs, List.mem_append] at hc
    exact hc.elim (hu c) (hv c)
  · intro h
    have hstart : trimStart s = [] := List.dropWhile_eq_nil_iff.2 h
    rw [trim, hstart]
    rfl

/-- Blanks put around a trimmed text are cut off again. -/
theorem trim_append_append (hu : ∀ c ∈ u, isBlank c = true) (hs : trim s = s) (hv : ∀ c ∈ v, isBlank c = true) :
    trim (u ++ s ++ v) = s := by
  obtain ⟨hhead, hlast⟩ := trim_eq_self_iff.1 hs
  by_cases hnil : s = []
  · subst hnil
    refine trim_eq_nil_iff.2 fun c hc => ?_
    rw [List.append_nil, List.mem_append] at hc
    exact hc.elim (hu c) (hv c)
  · have hstart : trimStart (u ++ s ++ v) = s ++ v := by
      rw [trimStart, List.append_assoc, List.dropWhile_append_of_pos hu]
      refine dropWhile_eq_self_iff.2 fun c hc => hhead c ?_
      rwa [List.head?_append_of_ne_nil _ hnil] at hc
    have hend : trimEnd (s ++ v) = s := by
      rw [trimEnd, List.reverse_append, List.dropWhile_append_of_pos fun c hc => hv c (List.mem_reverse.1 hc)]
      have hself : s.reverse.dropWhile isBlank = s.reverse := by
        refine dropWhile_eq_self_iff.2 fun c hc => hlast c ?_
        rwa [List.head?_reverse] at hc
      rw [hself, List.reverse_reverse]
    rw [trim, hstart, hend]

theorem trim_of_not_isBlank (h : ∀ c ∈ s, isBlank c = false) : trim s = s :=
  trim_eq_self_iff.2 ⟨fun c hc => h c (List.mem_of_head? hc), fun c hc => h c (List.mem_of_getLast? hc)⟩

end AuthProxy.Text
