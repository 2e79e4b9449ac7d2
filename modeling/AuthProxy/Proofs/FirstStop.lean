import AuthProxy.Outcome

/-!
# The first stop in a sequence of evaluations

Overrides are collected, fields and directives are read and conditions are checked one after another, and the first evaluation that
stops ends them all. `StopsAt` names that first one: values and checks in sequence end with its fault (`mapM_eq_error_iff`,
`forM_eq_error_iff`), and checks go well all together (`forM_eq_ok_iff`).
-/

namespace AuthProxy

variable {ε α : Type} {β : α → Type}

/-- `x` is the first of the list whose evaluation stops, for the reason `e`. -/
def StopsAt (run : (x : α) → Except ε (β x)) (xs : List α) (x : α) (e : ε) : Prop :=
  ∃ pre post, xs = pre ++ x :: post ∧ (∀ y ∈ pre, ∃ b, run y = .ok b) ∧ run x = .error e

variable {run : (x : α) → Except ε (β x)} {x : α} {xs : List α} {e : ε}

theorem not_stopsAt_nil {y : α} : ¬ StopsAt run [] y e := by
  rintro ⟨pre, post, h, -⟩
  simp at h

theorem StopsAt.head (h : run x = .error e) : StopsAt run (x :: xs) x e :=
  ⟨[], xs, rfl, List.forall_mem_nil _, h⟩

theorem stopsAt_cons_of_error {y : α} {e' : ε} (h : run x = .error e) :
    StopsAt run (x :: xs) y e' ↔ y = x ∧ e' = e := by
  constructor
  · rintro ⟨pre, post, hxs, hpre, hy⟩
    cases pre with
    | nil =>
      cases hxs
      rw [h] at hy
      cases hy
      exact ⟨rfl, rfl⟩
    | cons z pre =>
      cases hxs
      obtain ⟨b, hb⟩ := hpre x (by simp)
      rw [h] at hb
      cases hb
  · rintro ⟨rfl, rfl⟩
    exact .head h

theorem stopsAt_cons_of_ok {y : α} {b : β x} (h : run x = .ok b) :
    StopsAt run (x :: xs) y e ↔ StopsAt run xs y e := by
  constructor
  · rintro ⟨pre, post, hxs, hpre, hy⟩
    cases pre with
    | nil =>
      cases hxs
      rw [h] at hy
      cases hy
    | cons z pre =>
      cases hxs
      exact ⟨pre, post, rfl, fun w hw => hpre w (List.mem_cons_of_mem x hw), hy⟩
  · rintro ⟨pre, post, rfl, hpre, hy⟩
    refine ⟨x :: pre, post, rfl, ?_, hy⟩
    exact List.forall_mem_cons.2 ⟨⟨b, h⟩, hpre⟩

theorem StopsAt.mem {y : α} (h : StopsAt run xs y e) : y ∈ xs := by
  obtain ⟨pre, post, rfl, -⟩ := h
  simp

theorem StopsAt.error {y : α} (h : StopsAt run xs y e) : run y = .error e := by
  obtain ⟨_, _, -, -, h⟩ := h
  exact h

/-- The one evaluation that does not have a value is the first to stop. -/
theorem stopsAt_of_forall_ne (hx : x ∈ xs) (h : run x = .error e) (hrest : ∀ y ∈ xs, y ≠ x → ∃ b, run y = .ok b) :
    StopsAt run xs x e := by
  obtain ⟨pre, post, rfl, hpre⟩ := List.eq_append_cons_of_mem hx
  refine ⟨pre, post, rfl, fun y hy => hrest y ?_ fun hyx => hpre (hyx ▸ hy), h⟩
  exact List.mem_append_left _ hy

/-- Values in sequence stop where the first of their evaluations does. -/
theorem mapM_eq_error_iff {γ : Type} {f : α → Except ε γ} : xs.mapM f = .error e ↔ ∃ x, StopsAt f xs x e := by
  induction xs with
  | nil => exact ⟨fun h => (nomatch h), fun ⟨x, h⟩ => absurd h not_stopsAt_nil⟩
  | cons x xs ih =>
    rw [List.mapM_cons]
    cases h : f x with
    | error e' =>
      simp only [stopsAt_cons_of_error h]
      constructor
      · intro h
        cases h
        exact ⟨x, rfl, rfl⟩
      · rintro ⟨_, -, rfl⟩
        rfl
    | ok b =>
      simp only [stopsAt_cons_of_ok h, ← ih]
      cases xs.mapM f with
      | error e' => exact Iff.rfl
      | ok bs => exact ⟨fun h => (nomatch h), fun h => (nomatch h)⟩

/-- Values in sequence are those of each element, where all of them are there. -/
theorem mapM_eq_ok_map {γ : Type} {f : α → Except ε γ} {g : α → γ} (h : ∀ x ∈ xs, f x = .ok (g x)) :
    xs.mapM f = .ok (xs.map g) := by
  induction xs with
  | nil => rfl
  | cons x xs ih =>
    obtain ⟨hx, hxs⟩ := List.forall_mem_cons.1 h
    rw [List.mapM_cons, hx, ih hxs]
    rfl

/-! ## Checks in sequence -/

section Checks

variable {check : α → Except ε Unit}

/-- Checks are passed in sequence if each of them is. -/
theorem forM_eq_ok_iff : xs.forM check = .ok () ↔ ∀ x ∈ xs, check x = .ok () := by
  induction xs with
  | nil => exact ⟨fun _ => List.forall_mem_nil _, fun _ => rfl⟩
  | cons x xs ih =>
    change (check x >>= fun _ => xs.forM check) = _ ↔ _
    rw [List.forall_mem_cons, ← ih]
    cases check x with
    | error e => exact ⟨fun h => (nomatch h), fun h => (nomatch h.1)⟩
    | ok u => exact ⟨fun h => ⟨rfl, h⟩, fun h => h.2⟩

/-- They stop at the first one that is not. -/
theorem forM_eq_error_iff : xs.forM check = .error e ↔ ∃ x, StopsAt check xs x e := by
  induction xs with
  | nil => exact ⟨fun h => (nomatch h), fun ⟨x, h⟩ => absurd h not_stopsAt_nil⟩
  | cons x xs ih =>
    change (check x >>= fun _ => xs.forM check) = _ ↔ _
    cases h : check x with
    | error e' =>
      simp only [stopsAt_cons_of_error h]
      constructor
      · intro h
        cases h
        exact ⟨x, rfl, rfl⟩
      · rintro ⟨_, -, rfl⟩
        rfl
    | ok u =>
      simp only [stopsAt_cons_of_ok h]
      exact ih

end Checks

end AuthProxy
