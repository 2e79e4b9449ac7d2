/-!
# Outcomes of an evaluation

An evaluation ends with a value, or stops: with a fault that it reports, or with a crash that ends the whole
process and cannot be caught. A crash is a cause of its own, so that statements on which inputs crash can be made.
-/

namespace AuthProxy

/-- Why an evaluation stopped without a value. -/
inductive Stop (ε : Type) where
  /-- A fault that is reported to the caller. -/
  | fault (e : ε)
  /-- The process ends here. -/
  | crash
deriving Repr, DecidableEq

/-- The result of an evaluation that may stop. -/
abbrev Outcome (ε α : Type) := Except (Stop ε) α

/-- The same reason to stop, with its fault restated. -/
def Stop.map (f : ε → δ) : Stop ε → Stop δ
  | fault e => fault (f e)
  | crash => crash

/-- Stop with a fault. -/
def report (e : ε) : Outcome ε α :=
  .error (.fault e)

namespace Outcome

/-- The same outcome, with its fault restated. -/
def mapFault (f : ε → δ) (x : Outcome ε α) : Outcome δ α :=
  x.mapError (Stop.map f)

theorem ok_ne_crash {a : α} : (.ok a : Outcome ε α) ≠ .error .crash := by
  rintro ⟨⟩

theorem report_ne_crash {e : ε} : (report e : Outcome ε α) ≠ .error .crash := by
  rintro ⟨⟩

theorem mapFault_ok (f : ε → δ) (a : α) : mapFault f (.ok a : Outcome ε α) = .ok a := rfl

theorem mapFault_error (f : ε → δ) (s : Stop ε) : mapFault f (.error s : Outcome ε α) = .error (s.map f) := rfl

theorem bind_eq_ok_iff {x : Except ε α} {f : α → Except ε β} {b : β} :
    x >>= f = .ok b ↔ ∃ a, x = .ok a ∧ f a = .ok b := by
  cases x <;> simp [bind, Except.bind]

theorem bind_eq_error_iff {x : Except ε α} {f : α → Except ε β} {e : ε} :
    x >>= f = .error e ↔ x = .error e ∨ ∃ a, x = .ok a ∧ f a = .error e := by
  cases x <;> simp [bind, Except.bind]

theorem map_eq_ok_iff {f : α → β} {x : Except ε α} {b : β} : f <$> x = .ok b ↔ ∃ a, x = .ok a ∧ f a = b := by
  cases x <;> simp [Functor.map, Except.map]

theorem map_eq_error_iff {f : α → β} {x : Except ε α} {e : ε} : f <$> x = .error e ↔ x = .error e := by
  cases x <;> simp [Functor.map, Except.map]

/-- Two evaluations have one image if both stop for one reason, or have values with one image. -/
theorem map_eq_map_iff {f : α → γ} {g : β → γ} {x : Except ε α} {y : Except ε β} : f <$> x = g <$> y ↔
    (∃ e, x = .error e ∧ y = .error e) ∨ ∃ a b, x = .ok a ∧ y = .ok b ∧ f a = g b := by
  cases x <;> cases y <;> simp [Functor.map, Except.map, eq_comm]

theorem mapFault_eq_ok_iff {f : ε → δ} {x : Outcome ε α} {a : α} : x.mapFault f = .ok a ↔ x = .ok a := by
  cases x <;> simp [mapFault_ok, mapFault_error]

theorem mapFault_eq_fault_iff {f : ε → δ} {x : Outcome ε α} {e : δ} :
    x.mapFault f = .error (.fault e) ↔ ∃ d, x = .error (.fault d) ∧ f d = e := by
  rcases x with (_ | _) | _ <;> simp [mapFault_ok, mapFault_error, Stop.map]

/-- Restating faults neither makes nor hides a crash. -/
theorem mapFault_eq_crash_iff {f : ε → δ} {x : Outcome ε α} :
    x.mapFault f = .error .crash ↔ x = .error .crash := by
  rcases x with (_ | _) | _ <;> simp [mapFault_ok, mapFault_error, Stop.map]

end Outcome

end AuthProxy
