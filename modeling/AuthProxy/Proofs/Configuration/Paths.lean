import AuthProxy.Configuration.Field
import Mathlib.Data.List.Infix

/-!
# The paths of fields and sections

How the paths of fields and sections lie to each other: those of two fields part, and what leads to a field are the paths of
sections. This is all that the laws of trees and documents need to know of the table of fields.
-/

namespace AuthProxy

/-- Two paths of which neither leads through the other. -/
def Parts (p q : List String) : Prop :=
  ¬ p <+: q ∧ ¬ q <+: p

instance (p q : List String) : Decidable (Parts p q) :=
  inferInstanceAs (Decidable (_ ∧ _))

/-- Paths part below a common key as they do with it in front. -/
theorem parts_cons {k : String} {p q : List String} : Parts (k :: p) (k :: q) ↔ Parts p q := by
  simp only [Parts, List.cons_prefix_cons, true_and]

theorem parts_cons_of_ne {j k : String} (h : k ≠ j) (p q : List String) : Parts (k :: p) (j :: q) :=
  ⟨fun e => h (List.cons_prefix_cons.1 e).1, fun e => h (List.cons_prefix_cons.1 e).1.symm⟩

theorem Parts.symm {p q : List String} (h : Parts p q) : Parts q p :=
  ⟨h.2, h.1⟩

theorem Section.mem_all (s : Section) : s ∈ Section.all := by
  cases s <;> decide

/-- No field is at the root. -/
theorem Field.path_ne_nil (f : Field) : f.path ≠ [] := by
  simp [Field.path, Field.route]

/-- The paths of two fields part. -/
theorem Field.parts_of_ne {f g : Field} (h : f ≠ g) : Parts f.path g.path := by
  have hall : ∀ f ∈ Field.all, ∀ g ∈ Field.all, f ≠ g → Parts f.path g.path := by
    decide +kernel
  exact hall f f.mem_all g g.mem_all h

/-- What leads to a field are the paths of sections. -/
theorem Field.exists_section {f : Field} {q : List String} (h : q <+: f.path) (hne : q ≠ f.path) :
    ∃ s : Section, q = s.path := by
  have hall : ∀ f ∈ Field.all, ∀ q ∈ f.path.inits, q = f.path ∨ ∃ s ∈ Section.all, q = s.path := by
    decide +kernel
  rcases hall f f.mem_all q ((List.mem_inits q f.path).2 h) with he | ⟨s, -, hs⟩
  · exact absurd he hne
  · exact ⟨s, hs⟩

/-- A section leads to a field or parts from it. -/
theorem Section.prefix_or_parts (s : Section) (f : Field) :
    (s.path <+: f.path ∧ s.path ≠ f.path) ∨ Parts f.path s.path := by
  have hall : ∀ s ∈ Section.all, ∀ f ∈ Field.all,
      (s.path <+: f.path ∧ s.path ≠ f.path) ∨ Parts f.path s.path := by
    decide +kernel
  exact hall s s.mem_all f f.mem_all

end AuthProxy
