import AuthProxy.Binding.Override
import AuthProxy.Proofs.FirstStop

/-!
# Which overrides are collected

Every bound variable is coerced by itself (`Binding.coerced`). The overrides are collected exactly if each variable that
occurs can be coerced (`exists_collectOverrides_iff`), and are then one for each of these (`mem_of_collectOverrides`);
otherwise the first one in the order of the table that cannot be coerced says why (`collectOverrides_eq_error_iff`).
-/

namespace AuthProxy

/-! ## The values of variables -/

/-- Only a duration is refused by its coercion, for the reason that it cannot be read. -/
theorem Coercion.apply_eq_error_iff {c : Coercion} {key raw : String} {stop : Stop Fault} : c.apply key raw = .error stop ↔
    c = .duration ∧ (Duration.read raw).mapFault (.unreadableVariable key) = .error stop := by
  cases c with
  | text => exact ⟨fun h => (nomatch h), fun h => (nomatch h.1)⟩
  | list => exact ⟨fun h => (nomatch h), fun h => (nomatch h.1)⟩
  | duration =>
    rw [Coercion.apply, Outcome.bind_eq_error_iff]
    constructor
    · rintro (h | ⟨d, -, h⟩)
      · exact ⟨rfl, h⟩
      · cases h
    · exact fun h => .inl h.2

theorem lastValue?_cons (p : String × String) (pairs : List (String × String)) (key : String) :
    lastValue? (p :: pairs) key = (lastValue? pairs key).or (if p.1 = key then some p.2 else none) := by
  rw [lastValue?, lastValue?, List.reverse_cons, List.find?_append, Option.map_or]
  congr 1
  by_cases h : p.1 = key
  · simp [h]
  · simp [h]

theorem lastValue?_eq_none {pairs : List (String × String)} {key : String} (h : key ∉ pairs.map (·.1)) :
    lastValue? pairs key = none := by
  induction pairs with
  | nil => rfl
  | cons p pairs ih =>
    obtain ⟨hp, hpairs⟩ : key ≠ p.1 ∧ key ∉ pairs.map (·.1) := by
      rwa [List.map_cons, List.mem_cons, not_or] at h
    rw [lastValue?_cons, ih hpairs, if_neg (Ne.symm hp), Option.none_or]

theorem lastValue?_append (pairs : List (String × String)) (k v key : String) :
    lastValue? (pairs ++ [(k, v)]) key = if k = key then some v else lastValue? pairs key := by
  by_cases h : k = key
  · simp [lastValue?, h]
  · simp [lastValue?, h]

/-- The coerced value of a binding, if its variable occurs. -/
def Binding.coerced (pairs : List (String × String)) (b : Binding) : Outcome Fault (Option CoercedValue) :=
  match lastValue? pairs b.key with
  | none => .ok none
  | some raw => some <$> b.coercion.apply b.key raw

variable {pairs : List (String × String)}

theorem Binding.coerced_eq_ok_none_iff {b : Binding} :
    b.coerced pairs = .ok none ↔ lastValue? pairs b.key = none := by
  unfold Binding.coerced
  cases lastValue? pairs b.key with
  | none => simp
  | some raw => simp [Outcome.map_eq_ok_iff]

theorem Binding.coerced_eq_ok_some_iff {b : Binding} {v : CoercedValue} : b.coerced pairs = .ok (some v) ↔
    ∃ raw, lastValue? pairs b.key = some raw ∧ b.coercion.apply b.key raw = .ok v := by
  unfold Binding.coerced
  cases lastValue? pairs b.key with
  | none => simp
  | some raw => simp [Outcome.map_eq_ok_iff]

theorem Binding.coerced_eq_error_iff {b : Binding} {stop : Stop Fault} : b.coerced pairs = .error stop ↔
    ∃ raw, lastValue? pairs b.key = some raw ∧ b.coercion.apply b.key raw = .error stop := by
  unfold Binding.coerced
  cases lastValue? pairs b.key with
  | none => simp
  | some raw => simp [Outcome.map_eq_error_iff]

theorem overridesOf_cons (b : Binding) (bs : List Binding) : overridesOf pairs (b :: bs) = (do
    let v ← b.coerced pairs
    let rest ← overridesOf pairs bs
    .ok ((v.map (Override.mk b)).toList ++ rest)) := by
  rw [overridesOf, Binding.coerced]
  cases lastValue? pairs b.key with
  | none => cases overridesOf pairs bs <;> rfl
  | some raw =>
    dsimp only
    cases b.coercion.apply b.key raw <;> rfl

/-! ## The overrides of some bindings -/

/-- The overrides of some bindings are one for each variable that occurs, in order. -/
theorem overridesOf_eq_ok_iff {bs : List Binding} : ∀ {os : List Override}, overridesOf pairs bs = .ok os ↔
    (∀ b ∈ bs, ∃ v, b.coerced pairs = .ok v) ∧
      os = bs.filterMap fun b => (b.coerced pairs).toOption.join.map (Override.mk b) := by
  induction bs with
  | nil =>
    intro os
    rw [overridesOf, List.filterMap_nil]
    constructor
    · intro h
      cases h
      exact ⟨List.forall_mem_nil _, rfl⟩
    · rintro ⟨-, rfl⟩
      rfl
  | cons b bs ih =>
    intro os
    rw [overridesOf_cons, Outcome.bind_eq_ok_iff]
    constructor
    · rintro ⟨v, hv, h⟩
      obtain ⟨rest, hrest, h⟩ := Outcome.bind_eq_ok_iff.1 h
      obtain ⟨hall, rfl⟩ := ih.1 hrest
      cases h
      refine ⟨List.forall_mem_cons.2 ⟨⟨v, hv⟩, hall⟩, ?_⟩
      rw [List.filterMap_cons, hv]
      cases v <;> rfl
    · rintro ⟨hall, rfl⟩
      obtain ⟨⟨v, hv⟩, hall⟩ := List.forall_mem_cons.1 hall
      refine ⟨v, hv, Outcome.bind_eq_ok_iff.2 ⟨_, ih.2 ⟨hall, rfl⟩, ?_⟩⟩
      rw [List.filterMap_cons, hv]
      cases v <;> rfl

/-- Their collection stops for the reason of the first variable that cannot be coerced. -/
theorem overridesOf_eq_error_iff {bs : List Binding} {stop : Stop Fault} :
    overridesOf pairs bs = .error stop ↔ ∃ b, StopsAt (Binding.coerced pairs) bs b stop := by
  induction bs with
  | nil => exact ⟨fun h => (nomatch h), fun ⟨b, h⟩ => absurd h not_stopsAt_nil⟩
  | cons b bs ih =>
    rw [overridesOf_cons]
    cases h : b.coerced pairs with
    | error e =>
      simp only [stopsAt_cons_of_error h]
      constructor
      · intro h
        cases h
        exact ⟨b, rfl, rfl⟩
      · rintro ⟨_, -, rfl⟩
        rfl
    | ok v =>
      simp only [stopsAt_cons_of_ok h, ← ih]
      cases overridesOf pairs bs with
      | error e => exact Iff.rfl
      | ok rest => exact ⟨fun h => (nomatch h), fun h => (nomatch h)⟩

/-- What else the variables are does not matter. -/
theorem overridesOf_congr {pairs' : List (String × String)} {bs : List Binding}
    (h : ∀ b ∈ bs, lastValue? pairs b.key = lastValue? pairs' b.key) : overridesOf pairs bs = overridesOf pairs' bs := by
  induction bs with
  | nil => rfl
  | cons b bs ih =>
    obtain ⟨hb, hbs⟩ := List.forall_mem_cons.1 h
    rw [overridesOf, overridesOf, hb, ih hbs]

/-! ## The overrides of the whole table -/

theorem collectOverrides_eq_error_iff {stop : Stop Fault} :
    collectOverrides pairs = .error stop ↔ ∃ b, StopsAt (Binding.coerced pairs) Binding.table b stop :=
  overridesOf_eq_error_iff

/-- The overrides are collected exactly if every variable that occurs can be coerced. -/
theorem exists_collectOverrides_iff :
    (∃ os, collectOverrides pairs = .ok os) ↔ ∀ b ∈ Binding.table, ∃ v, b.coerced pairs = .ok v := by
  constructor
  · rintro ⟨os, h⟩
    exact (overridesOf_eq_ok_iff.1 h).1
  · exact fun h => ⟨_, overridesOf_eq_ok_iff.2 ⟨h, rfl⟩⟩

variable {os : List Override}

theorem coerced_of_collectOverrides (h : collectOverrides pairs = .ok os) {b : Binding} (hb : b ∈ Binding.table) :
    ∃ v, b.coerced pairs = .ok v :=
  (overridesOf_eq_ok_iff.1 h).1 b hb

/-- They are one for each variable of the table that occurs. -/
theorem mem_of_collectOverrides (h : collectOverrides pairs = .ok os) (o : Override) :
    o ∈ os ↔ o.binding ∈ Binding.table ∧ o.binding.coerced pairs = .ok (some o.value) := by
  rw [(overridesOf_eq_ok_iff.1 h).2, List.mem_filterMap]
  constructor
  · rintro ⟨b, hb, ho⟩
    obtain ⟨v, hv, rfl⟩ := Option.map_eq_some_iff.1 ho
    refine ⟨hb, ?_⟩
    dsimp only
    cases hc : b.coerced pairs with
    | error e => rw [hc] at hv; cases hv
    | ok w => rw [hc] at hv; cases hv; rfl
  · rintro ⟨hb, ho⟩
    refine ⟨o.binding, hb, ?_⟩
    rw [ho]
    rfl

/-- No two of them are for one field. -/
theorem nodup_of_collectOverrides (h : collectOverrides pairs = .ok os) : (os.map (·.binding.field)).Nodup := by
  have hsub : ∀ bs : List Binding, ((bs.filterMap fun b => (b.coerced pairs).toOption.join.map (Override.mk b)).map
      (·.binding.field)).Sublist (bs.map (·.field)) := by
    intro bs
    induction bs with
    | nil => exact .slnil
    | cons b bs ih =>
      rw [List.filterMap_cons]
      cases (b.coerced pairs).toOption.join with
      | none => exact ih.cons b.field
      | some v => exact ih.cons_cons b.field
  have hfields : (Binding.table.map (·.field)).Nodup := by
    decide
  rw [(overridesOf_eq_ok_iff.1 h).2]
  exact hfields.sublist (hsub Binding.table)

end AuthProxy
