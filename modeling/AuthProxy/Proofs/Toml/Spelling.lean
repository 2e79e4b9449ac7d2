import AuthProxy.Proofs.Duration.RoundTrip
import AuthProxy.Proofs.Toml.Standing
import AuthProxy.Proofs.Toml.Values
import AuthProxy.Toml.Reading

/-!
# How values are spelled

The values of fields as TOML has them, with nothing to convert (`Value.Spells`). They and no others are read as what
they stand for (`Value.Spells.ofKind`, `Value.spells_of_ofKind`), and a written configuration has no others (`spells_valueOf?`).
-/

namespace AuthProxy.Toml

/-- A value is written as its kind is, with no conversion: a port as an integer, a duration as a text that is read as it. -/
def Value.Spells (w : Value) : (k : Kind) → k.Value → Prop
  | .text, (s : String) => w = .text s
  | .flag, (b : Bool) => w = .flag b
  | .port, (p : UInt16) => w = .integer p.toNat
  | .duration, (d : Duration) => ∃ s, w = .text s ∧ Duration.read s = .ok d
  | .texts, (xs : List String) => w = .list (xs.map .text)
  | .path, (p : Option String) => ∃ s, w = .text s ∧ p = some s

theorem Value.Spells.not_isTable : {w : Value} → {k : Kind} → {x : k.Value} → w.Spells k x → ¬ w.IsTable
  | _, .text, (_ : String), rfl => id
  | _, .flag, (_ : Bool), rfl => id
  | _, .port, (_ : UInt16), rfl => id
  | _, .duration, (_ : Duration), ⟨_, rfl, _⟩ => id
  | _, .texts, (_ : List String), rfl => id
  | _, .path, (_ : Option String), ⟨_, rfl, _⟩ => id

theorem integersFitItems_texts (xs : List String) : integersFitItems (xs.map .text) = true := by
  induction xs with
  | nil => rfl
  | cons x xs ih => exact ih

theorem Value.Spells.integersFit : {w : Value} → {k : Kind} → {x : k.Value} → w.Spells k x → w.integersFit = true
  | _, .text, (_ : String), rfl => rfl
  | _, .flag, (_ : Bool), rfl => rfl
  | _, .port, (p : UInt16), rfl => by
    have := p.toNat_lt
    rw [Value.integersFit, Bool.and_eq_true, decide_eq_true_iff, decide_eq_true_iff]
    omega
  | _, .duration, (_ : Duration), ⟨_, rfl, _⟩ => rfl
  | _, .texts, (xs : List String), rfl => integersFitItems_texts xs
  | _, .path, (_ : Option String), ⟨_, rfl, _⟩ => rfl

theorem mapM_text? (xs : List String) : (xs.map Value.text).mapM Value.text? = some xs := by
  induction xs with
  | nil => rfl
  | cons x xs ih =>
    rw [List.map_cons, List.mapM_cons, ih]
    rfl

/-- Nothing but texts is read as texts. -/
theorem eq_map_text_of_mapM_text? : {items : List Value} → {xs : List String} → items.mapM Value.text? = some xs →
    items = xs.map .text
  | [], _, h => by
    cases h
    rfl
  | v :: items, xs, h => by
    rw [List.mapM_cons] at h
    obtain ⟨x, hx, h⟩ := Option.bind_eq_some_iff.1 h
    obtain ⟨ys, hys, h⟩ := Option.bind_eq_some_iff.1 h
    cases h
    cases v with
    | text s =>
      cases hx
      rw [eq_map_text_of_mapM_text? hys, List.map_cons]
    | _ => cases hx

/-- The strict reader takes it as what it stands for. -/
theorem Value.Spells.ofKind (unfit : Unfit) : {w : Value} → {k : Kind} → {x : k.Value} → w.Spells k x →
    w.ofKind unfit k = .ok x
  | _, .text, (_ : String), rfl => rfl
  | _, .flag, (_ : Bool), rfl => rfl
  | _, .port, (p : UInt16), rfl => by
    have := p.toNat_lt
    rw [Value.ofKind, if_pos (by omega), Int.toNat_natCast, UInt16.ofNat_toNat]
  | _, .duration, (_ : Duration), ⟨_, rfl, hread⟩ => Outcome.mapFault_eq_ok_iff.2 hread
  | _, .texts, (xs : List String), rfl => by
    simp only [Value.ofKind, mapM_text?]
  | _, .path, (_ : Option String), ⟨_, rfl, rfl⟩ => rfl

/-- The strict reader takes nothing else. -/
theorem Value.spells_of_ofKind {unfit : Unfit} {w : Value} {k : Kind} {x : k.Value} (h : w.ofKind unfit k = .ok x) :
    w.Spells k x := by
  cases k with
  | text | flag =>
    cases w <;> cases h
    rfl
  | path =>
    cases w <;> cases h
    exact ⟨_, rfl, rfl⟩
  | port =>
    cases w with
    | integer i =>
      rw [ofKind] at h
      split at h
      next hi =>
        cases h
        have hsmall : i.toNat < UInt16.size := by
          rw [UInt16.size]
          omega
        have hnat : (UInt16.ofNat i.toNat).toNat = i.toNat := UInt16.toNat_ofNat_of_lt' hsmall
        exact congrArg integer (by omega)
      next => cases h
    | _ => cases h
  | duration =>
    cases w with
    | text s => exact ⟨s, rfl, Outcome.mapFault_eq_ok_iff.1 h⟩
    | _ => cases h
  | texts =>
    cases w with
    | list items =>
      rw [ofKind] at h
      split at h
      next xs hitems =>
        cases h
        exact congrArg list (eq_map_text_of_mapM_text? hitems)
      next => cases h
    | _ => cases h

/-- What is written of a value spells it. -/
theorem spells_valueOf? : {k : Kind} → {x : k.Value} → {v : Value} → valueOf? k x = some v → v.Spells k x
  | .text, (_ : String), _, rfl => rfl
  | .flag, (_ : Bool), _, rfl => rfl
  | .port, (_ : UInt16), _, rfl => rfl
  | .duration, (d : Duration), _, rfl => ⟨String.ofList d.text, rfl, Duration.read_of_trim d.trim_ofList_text⟩
  | .texts, (_ : List String), _, rfl => rfl
  | .path, some s, _, rfl => ⟨s, rfl, rfl⟩

end AuthProxy.Toml
