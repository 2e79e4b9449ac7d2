import AuthProxy.Layer.Reading
import AuthProxy.Proofs.Duration.Overflow

/-!
# Reading a value from a node

Where a value stands matters for messages alone: whether a node can be read as a kind of value, and as which, is a matter
of the node itself (`value_eq_ok_congr`). Only a text that overfills a duration crashes (`value_eq_crash_iff`).
-/

namespace AuthProxy.Layer.Located

open Number Text

variable {file file' : Option String} {n n' : Located}

theorem text_eq_ok_iff {x : String} :
    n.text file = .ok x ↔ ∃ b s, n.tree = .scalar b s ∧ x = scalarText s := by
  unfold text
  cases n.tree with
  | scalar b s =>
    constructor
    · intro h
      cases h
      exact ⟨b, s, rfl, rfl⟩
    · rintro ⟨_, _, h, rfl⟩
      cases h
      rfl
  | nil => exact ⟨fun h => (nomatch h), fun ⟨_, _, h, _⟩ => (nomatch h)⟩
  | list b items => exact ⟨fun h => (nomatch h), fun ⟨_, _, h, _⟩ => (nomatch h)⟩
  | table b es => exact ⟨fun h => (nomatch h), fun ⟨_, _, h, _⟩ => (nomatch h)⟩

theorem text_ne_crash : n.text file ≠ .error .crash := by
  unfold text
  split
  · exact Outcome.ok_ne_crash
  · exact Outcome.report_ne_crash

theorem itemTexts_eq_ok_iff {key : String} {items : List Tree} : ∀ {i : Nat} {xs : List String},
    itemTexts file key i items = .ok xs ↔
      List.Forall₂ (fun t x => ∃ b s, t = .scalar b s ∧ x = scalarText s) items xs := by
  induction items with
  | nil =>
    intro i xs
    rw [List.forall₂_nil_left_iff, itemTexts]
    exact ⟨fun h => by cases h; rfl, fun h => by rw [h]⟩
  | cons t items ih =>
    intro i xs
    rw [itemTexts, Outcome.bind_eq_ok_iff]
    constructor
    · rintro ⟨x, hx, h⟩
      obtain ⟨rest, hrest, h⟩ := Outcome.bind_eq_ok_iff.1 h
      cases h
      exact .cons (text_eq_ok_iff.1 hx) (ih.1 hrest)
    · intro h
      obtain ⟨x, rest, hx, hrest, rfl⟩ := List.forall₂_cons_left_iff.1 h
      exact ⟨x, text_eq_ok_iff.2 hx, Outcome.bind_eq_ok_iff.2 ⟨rest, ih.2 hrest, rfl⟩⟩

theorem itemTexts_ne_crash {key : String} {items : List Tree} :
    ∀ {i : Nat}, itemTexts file key i items ≠ .error .crash := by
  induction items with
  | nil => exact Outcome.ok_ne_crash
  | cons t items ih =>
    intro i h
    rw [itemTexts, Outcome.bind_eq_error_iff] at h
    rcases h with h | ⟨x, -, h⟩
    · exact text_ne_crash h
    · rcases Outcome.bind_eq_error_iff.1 h with h | ⟨rest, -, h⟩
      · exact ih h
      · cases h

/-! ## The same node elsewhere -/

theorem text_congr (h : n.tree = n'.tree) {x : String} (hx : n.text file = .ok x) : n'.text file' = .ok x := by
  rw [text_eq_ok_iff] at hx ⊢
  rwa [← h]

theorem flag_congr (h : n.tree = n'.tree) {x : Bool} (hx : n.flag file = .ok x) : n'.flag file' = .ok x := by
  unfold flag at hx ⊢
  rw [← h]
  cases ht : n.tree with
  | scalar b s =>
    rw [ht] at hx
    cases s with
    | text s =>
      dsimp only at hx ⊢
      cases hw : flagWord? (lowerCase s.toList) with
      | some w =>
        rw [hw] at hx
        exact hx
      | none =>
        rw [hw] at hx
        cases hx
    | flag w => exact hx
    | integer i => exact hx
    | float x => exact hx
  | nil => rw [ht] at hx; cases hx
  | list b items => rw [ht] at hx; cases hx
  | table b es => rw [ht] at hx; cases hx

theorem number_congr (h : n.tree = n'.tree) {x : Nat} (hx : n.number file = .ok x) : n'.number file' = .ok x := by
  unfold number at hx ⊢
  rw [← h]
  cases ht : n.tree with
  | scalar b s =>
    rw [ht] at hx
    cases s with
    | text s =>
      dsimp only at hx ⊢
      cases hw : number? s.toList with
      | some w =>
        rw [hw] at hx
        exact hx
      | none =>
        rw [hw] at hx
        cases hx
    | integer i =>
      dsimp only at hx ⊢
      split
      next hi => rwa [if_pos hi] at hx
      next hi =>
        rw [if_neg hi] at hx
        cases hx
    | flag w => exact hx
    | float x => exact hx
  | nil => rw [ht] at hx; cases hx
  | list b items => rw [ht] at hx; cases hx
  | table b es => rw [ht] at hx; cases hx

theorem port_congr (h : n.tree = n'.tree) {x : UInt16} (hx : n.port file = .ok x) : n'.port file' = .ok x := by
  obtain ⟨k, hk, hx⟩ := Outcome.bind_eq_ok_iff.1 hx
  refine Outcome.bind_eq_ok_iff.2 ⟨k, number_congr h hk, ?_⟩
  split
  next hlt => rwa [if_pos hlt] at hx
  next hlt =>
    rw [if_neg hlt] at hx
    cases hx

theorem duration_congr (h : n.tree = n'.tree) {x : Duration} (hx : n.duration file = .ok x) :
    n'.duration file' = .ok x := by
  obtain ⟨s, hs, hx⟩ := Outcome.bind_eq_ok_iff.1 hx
  refine Outcome.bind_eq_ok_iff.2 ⟨s, text_congr h hs, ?_⟩
  rw [Outcome.mapFault_eq_ok_iff] at hx ⊢
  exact hx

theorem texts_congr (h : n.tree = n'.tree) {x : List String} (hx : n.texts file = .ok x) :
    n'.texts file' = .ok x := by
  unfold texts at hx ⊢
  rw [← h]
  cases ht : n.tree with
  | list b items =>
    rw [ht] at hx
    exact itemTexts_eq_ok_iff.2 (itemTexts_eq_ok_iff.1 hx)
  | nil => rw [ht] at hx; cases hx
  | scalar b s => rw [ht] at hx; cases hx
  | table b es => rw [ht] at hx; cases hx

theorem path_congr (h : n.tree = n'.tree) {x : Option String} (hx : n.path file = .ok x) :
    n'.path file' = .ok x := by
  unfold path at hx ⊢
  rw [← h]
  split
  next ht => rwa [ht] at hx
  next ht =>
    have hx' : some <$> n.text file = .ok x := by
      cases hn : n.tree with
      | nil => exact absurd hn ht
      | scalar b s => rwa [hn] at hx
      | list b items => rwa [hn] at hx
      | table b es => rwa [hn] at hx
    obtain ⟨s, hs, rfl⟩ := Outcome.map_eq_ok_iff.1 hx'
    exact Outcome.map_eq_ok_iff.2 ⟨s, text_congr h hs, rfl⟩

/-- **What a node is read as** does not depend on where it stands. -/
theorem value_eq_ok_congr (h : n.tree = n'.tree) {k : Kind} {x : k.Value} (hx : n.value file k = .ok x) :
    n'.value file' k = .ok x := by
  cases k with
  | text => exact text_congr h hx
  | flag => exact flag_congr h hx
  | port => exact port_congr h hx
  | duration => exact duration_congr h hx
  | texts => exact texts_congr h hx
  | path => exact path_congr h hx

/-! ## Crashes -/

theorem flag_ne_crash : n.flag file ≠ .error .crash := by
  unfold flag
  split
  · exact Outcome.ok_ne_crash
  · exact Outcome.ok_ne_crash
  · exact Outcome.ok_ne_crash
  · dsimp only
    split
    · exact Outcome.ok_ne_crash
    · exact Outcome.report_ne_crash
  · exact Outcome.report_ne_crash

theorem number_ne_crash : n.number file ≠ .error .crash := by
  unfold number
  split
  · exact Outcome.ok_ne_crash
  · split
    · exact Outcome.ok_ne_crash
    · exact Outcome.report_ne_crash
  · exact Outcome.ok_ne_crash
  · split
    · exact Outcome.ok_ne_crash
    · exact Outcome.report_ne_crash
  · exact Outcome.report_ne_crash

theorem port_ne_crash : n.port file ≠ .error .crash := by
  intro h
  rcases Outcome.bind_eq_error_iff.1 h with h | ⟨k, -, h⟩
  · exact number_ne_crash h
  · split at h <;> cases h

theorem texts_ne_crash : n.texts file ≠ .error .crash := by
  unfold texts
  split
  · exact itemTexts_ne_crash
  · exact Outcome.report_ne_crash

theorem path_ne_crash : n.path file ≠ .error .crash := by
  unfold path
  split
  · exact Outcome.ok_ne_crash
  · exact fun h => text_ne_crash (Outcome.map_eq_error_iff.1 h)

theorem duration_eq_crash_iff : n.duration file = .error .crash ↔
    ∃ b s, n.tree = .scalar b s ∧ Duration.Overfills (scalarText s) := by
  rw [duration, Outcome.bind_eq_error_iff]
  constructor
  · rintro (h | ⟨x, hx, h⟩)
    · exact absurd h text_ne_crash
    · obtain ⟨b, s, ht, rfl⟩ := text_eq_ok_iff.1 hx
      exact ⟨b, s, ht, Duration.read_eq_crash.1 (Outcome.mapFault_eq_crash_iff.1 h)⟩
  · rintro ⟨b, s, ht, h⟩
    refine .inr ⟨scalarText s, text_eq_ok_iff.2 ⟨b, s, ht, rfl⟩, ?_⟩
    exact Outcome.mapFault_eq_crash_iff.2 (Duration.read_eq_crash.2 h)

/-- **Reading a value crashes** exactly on the texts that overfill a duration. -/
theorem value_eq_crash_iff {k : Kind} : n.value file k = .error .crash ↔
    k = .duration ∧ ∃ b s, n.tree = .scalar b s ∧ Duration.Overfills (scalarText s) := by
  cases k with
  | duration => exact ⟨fun h => ⟨rfl, duration_eq_crash_iff.1 h⟩, fun h => duration_eq_crash_iff.2 h.2⟩
  | text => exact ⟨fun h => absurd h text_ne_crash, fun h => (nomatch h.1)⟩
  | flag => exact ⟨fun h => absurd h flag_ne_crash, fun h => (nomatch h.1)⟩
  | port => exact ⟨fun h => absurd h port_ne_crash, fun h => (nomatch h.1)⟩
  | texts => exact ⟨fun h => absurd h texts_ne_crash, fun h => (nomatch h.1)⟩
  | path => exact ⟨fun h => absurd h path_ne_crash, fun h => (nomatch h.1)⟩

end AuthProxy.Layer.Located
