/-!
# Splitting at a separator

A text, or any other list, is cut at every occurrence of a separator; the pieces are in order, and there is always one.
None of them holds the separator (`not_mem_of_mem_splitAt`).
-/

namespace AuthProxy.Text

variable {α : Type} [DecidableEq α]

/-- The pieces of a list between the occurrences of a separator. -/
def splitAt (sep : α) : List α → List (List α)
  | [] => [[]]
  | c :: r =>
    if c = sep then [] :: splitAt sep r
    else
      match splitAt sep r with
      | [] => [[c]]
      | piece :: pieces => (c :: piece) :: pieces

theorem splitAt_ne_nil (sep : α) (s : List α) : splitAt sep s ≠ [] := by
  cases s with
  | nil => simp [splitAt]
  | cons c r =>
    rw [splitAt]
    split
    · simp
    · split <;> simp

theorem splitAt_cons_of_ne {sep c : α} (h : c ≠ sep) (r : List α) :
    ∃ piece pieces, splitAt sep r = piece :: pieces ∧ splitAt sep (c :: r) = (c :: piece) :: pieces := by
  cases hr : splitAt sep r with
  | nil => exact absurd hr (splitAt_ne_nil sep r)
  | cons piece pieces => exact ⟨piece, pieces, rfl, by simp [splitAt, h, hr]⟩

/-- No piece holds the separator. -/
theorem not_mem_of_mem_splitAt {sep : α} {s piece : List α} (h : piece ∈ splitAt sep s) :
    sep ∉ piece := by
  induction s generalizing piece with
  | nil => simp_all [splitAt]
  | cons c r ih =>
    by_cases hc : c = sep
    · rw [splitAt, if_pos hc] at h
      rcases List.mem_cons.1 h with rfl | h
      · simp
      · exact ih h
    · obtain ⟨first, others, hr, hs⟩ := splitAt_cons_of_ne hc r
      rw [hs] at h
      rcases List.mem_cons.1 h with rfl | h
      · have : sep ∉ first := ih (by rw [hr]; simp)
        simp only [List.mem_cons, not_or]
        exact ⟨fun e => hc e.symm, this⟩
      · exact ih (by rw [hr]; simp [h])

end AuthProxy.Text
