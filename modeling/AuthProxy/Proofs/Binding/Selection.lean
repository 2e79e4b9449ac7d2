import AuthProxy.Proofs.Binding.Override
import Mathlib.Control.Monad.Basic
import Mathlib.Logic.Function.Basic

/-!
# Which values the overrides take

The last value of a variable is the one that no later pair sets anew (`IsLastValue`). The overrides are one for each bound
variable that occurs, in the order of the table, with its last value coerced (`collectOverrides_eq_ok_iff`); the first one whose
last value is no duration, where it should be, is the fault (`collectOverrides_eq_error_iff_read`). Collecting them takes two
passes: one over the variables, in which a later value takes the place of an earlier one, and one over the table
(`collectOverrides_eq_collectInPasses`).
-/

namespace AuthProxy

variable {pairs pairs' : List (String × String)} {key value raw : String} {b : Binding}

/-! ## Last values -/

/-- The value of the last pair of a key. -/
def IsLastValue (pairs : List (String × String)) (key value : String) : Prop :=
  ∃ before after, pairs = before ++ (key, value) :: after ∧ key ∉ after.map (·.1)

theorem lastValue?_append_eq_or (xs ys : List (String × String)) (key : String) :
    lastValue? (xs ++ ys) key = (lastValue? ys key).or (lastValue? xs key) := by
  rw [lastValue?, List.reverse_append, List.find?_append, Option.map_or]
  rfl

theorem lastValue?_eq_none_iff : lastValue? pairs key = none ↔ key ∉ pairs.map (·.1) := by
  refine ⟨fun h hmem => ?_, lastValue?_eq_none⟩
  obtain ⟨p, hp, rfl⟩ := List.mem_map.1 hmem
  rw [lastValue?, Option.map_eq_none_iff, List.find?_eq_none] at h
  exact h p (List.mem_reverse.2 hp) (beq_self_eq_true p.1)

theorem lastValue?_eq_some_iff : lastValue? pairs key = some value ↔ IsLastValue pairs key value := by
  constructor
  · intro h
    obtain ⟨p, hp, rfl⟩ := Option.map_eq_some_iff.1 h
    obtain ⟨hkey, after, before, hpairs, hafter⟩ := List.find?_eq_some_iff_append.1 hp
    obtain rfl : p.1 = key := eq_of_beq hkey
    refine ⟨before.reverse, after.reverse, ?_, fun hmem => ?_⟩
    · rw [← List.reverse_reverse pairs, hpairs, List.reverse_append, List.reverse_cons, List.append_assoc]
      rfl
    · obtain ⟨q, hq, hkey⟩ := List.mem_map.1 hmem
      have hne := hafter q (List.mem_reverse.1 hq)
      rw [hkey, beq_self_eq_true] at hne
      cases hne
  · rintro ⟨before, after, rfl, hafter⟩
    rw [lastValue?_append_eq_or, lastValue?_cons, lastValue?_eq_none hafter, if_pos rfl]
    rfl

instance (pairs : List (String × String)) (key value : String) : Decidable (IsLastValue pairs key value) :=
  decidable_of_iff _ lastValue?_eq_some_iff

/-- A pair is no matter to another key, nor to its own if a later pair has it. -/
theorem lastValue?_append_cons {before after : List (String × String)} {p : String × String}
    (h : p.1 ∈ after.map (·.1) ∨ p.1 ≠ key) :
    lastValue? (before ++ p :: after) key = lastValue? (before ++ after) key := by
  rw [lastValue?_append_eq_or, lastValue?_append_eq_or, lastValue?_cons]
  by_cases hkey : p.1 = key
  · subst hkey
    have hmem : p.1 ∈ after.map (·.1) := h.resolve_right fun hne => hne rfl
    cases hlast : lastValue? after p.1 with
    | none => exact absurd hmem (lastValue?_eq_none_iff.1 hlast)
    | some v => rfl
  · rw [if_neg hkey, Option.or_none]

/-! ## Values that are accepted -/

theorem Coercion.exists_apply_eq_ok_iff {c : Coercion} :
    (∃ v, c.apply key raw = .ok v) ↔ (c = .duration → ∃ d, Duration.read raw = .ok d) := by
  cases h : c.apply key raw with
  | error stop =>
    obtain ⟨hc, hread⟩ := Coercion.apply_eq_error_iff.1 h
    refine iff_of_false (fun ⟨v, hv⟩ => (nomatch hv)) fun hread' => ?_
    obtain ⟨d, hd⟩ := hread' hc
    rw [hd] at hread
    cases hread
  | ok v =>
    refine iff_of_true ⟨v, rfl⟩ fun hc => ?_
    subst hc
    obtain ⟨d, hd, -⟩ := Outcome.bind_eq_ok_iff.1 h
    exact ⟨d, Outcome.mapFault_eq_ok_iff.1 hd⟩

/-- The last value of a variable is accepted: a duration can be read from it where its field holds one. -/
def Binding.Accepts (pairs : List (String × String)) (b : Binding) : Prop :=
  b.coercion = .duration → ∀ raw, IsLastValue pairs b.key raw → ∃ d, Duration.read raw = .ok d

theorem Binding.exists_coerced_iff : (∃ v, b.coerced pairs = .ok v) ↔ b.Accepts pairs := by
  simp only [Binding.Accepts, ← lastValue?_eq_some_iff]
  cases hlast : lastValue? pairs b.key with
  | none => exact iff_of_true ⟨none, coerced_eq_ok_none_iff.2 hlast⟩ fun _ _ h => (nomatch h)
  | some raw =>
    have hcoerced : (∃ v, b.coerced pairs = .ok v) ↔ ∃ v, b.coercion.apply b.key raw = .ok v := by
      unfold Binding.coerced
      rw [hlast]
      dsimp only
      cases b.coercion.apply b.key raw with
      | error stop => exact iff_of_false (fun ⟨_, h⟩ => (nomatch h)) (fun ⟨_, h⟩ => (nomatch h))
      | ok v => exact iff_of_true ⟨some v, rfl⟩ ⟨v, rfl⟩
    rw [hcoerced, Coercion.exists_apply_eq_ok_iff]
    constructor
    · intro h hc raw' hraw
      cases hraw
      exact h hc
    · exact fun h hc => h hc raw rfl

/-! ## The overrides that are collected -/

/-- The overrides of some bindings are one for each variable that occurs, in order, with its last value coerced. -/
theorem overridesOf_eq_ok_iff_map {bs : List Binding} : ∀ {os : List Override}, overridesOf pairs bs = .ok os ↔
    os.map (·.binding) = bs.filter (·.key ∈ pairs.map (·.1)) ∧
      ∀ o ∈ os, ∃ raw, IsLastValue pairs o.binding.key raw ∧
        o.binding.coercion.apply o.binding.key raw = .ok o.value := by
  induction bs with
  | nil =>
    intro os
    rw [overridesOf, List.filter_nil, List.map_eq_nil_iff]
    constructor
    · intro h
      cases h
      exact ⟨rfl, List.forall_mem_nil _⟩
    · rintro ⟨rfl, -⟩
      rfl
  | cons b bs ih =>
    intro os
    rw [overridesOf]
    cases hlast : lastValue? pairs b.key with
    | none =>
      have hkey : b.key ∉ pairs.map (·.1) := lastValue?_eq_none_iff.1 hlast
      rw [List.filter_cons_of_neg (by simpa using hkey)]
      exact ih
    | some raw =>
      have hkey : b.key ∈ pairs.map (·.1) := by
        by_contra hkey
        rw [lastValue?_eq_none hkey] at hlast
        cases hlast
      rw [List.filter_cons_of_pos (by simpa using hkey)]
      dsimp only
      rw [Outcome.bind_eq_ok_iff]
      constructor
      · rintro ⟨v, hv, h⟩
        obtain ⟨rest, hrest, h⟩ := Outcome.bind_eq_ok_iff.1 h
        cases h
        obtain ⟨hmap, hvalues⟩ := ih.1 hrest
        refine ⟨congrArg (b :: ·) hmap, List.forall_mem_cons.2 ⟨?_, hvalues⟩⟩
        exact ⟨raw, lastValue?_eq_some_iff.1 hlast, hv⟩
      · rintro ⟨hmap, hvalues⟩
        obtain ⟨o, rest, rfl, rfl, hrest⟩ := List.map_eq_cons_iff.1 hmap
        obtain ⟨⟨raw', hraw', hv⟩, hvalues⟩ := List.forall_mem_cons.1 hvalues
        rw [← lastValue?_eq_some_iff, hlast] at hraw'
        cases hraw'
        exact ⟨o.value, hv, Outcome.bind_eq_ok_iff.2 ⟨rest, ih.2 ⟨hrest, hvalues⟩, rfl⟩⟩

theorem collectOverrides_eq_ok_iff {os : List Override} : collectOverrides pairs = .ok os ↔
    os.map (·.binding) = Binding.table.filter (·.key ∈ pairs.map (·.1)) ∧
      ∀ o ∈ os, ∃ raw, IsLastValue pairs o.binding.key raw ∧
        o.binding.coercion.apply o.binding.key raw = .ok o.value :=
  overridesOf_eq_ok_iff_map

/-- The collection stops at the first variable of the table whose last value is not accepted, for the reason that it gives. -/
theorem collectOverrides_eq_error_iff_read {stop : Stop Fault} : collectOverrides pairs = .error stop ↔
    ∃ before b after raw, Binding.table = before ++ b :: after ∧ (∀ a ∈ before, a.Accepts pairs) ∧
      b.coercion = .duration ∧ IsLastValue pairs b.key raw ∧
      (Duration.read raw).mapFault (.unreadableVariable b.key) = .error stop := by
  rw [collectOverrides_eq_error_iff]
  constructor
  · rintro ⟨b, before, after, htable, hbefore, hb⟩
    obtain ⟨raw, hraw, hb⟩ := Binding.coerced_eq_error_iff.1 hb
    obtain ⟨hc, hread⟩ := Coercion.apply_eq_error_iff.1 hb
    exact ⟨before, b, after, raw, htable, fun a ha => Binding.exists_coerced_iff.1 (hbefore a ha), hc,
      lastValue?_eq_some_iff.1 hraw, hread⟩
  · rintro ⟨before, b, after, raw, htable, hbefore, hc, hraw, hread⟩
    refine ⟨b, before, after, htable, fun a ha => Binding.exists_coerced_iff.2 (hbefore a ha), ?_⟩
    exact Binding.coerced_eq_error_iff.2
      ⟨raw, lastValue?_eq_some_iff.2 hraw, Coercion.apply_eq_error_iff.2 ⟨hc, hread⟩⟩

theorem collectOverrides_congr (h : ∀ b ∈ Binding.table, lastValue? pairs b.key = lastValue? pairs' b.key) :
    collectOverrides pairs = collectOverrides pairs' :=
  overridesOf_congr h

/-! ## Two passes -/

/-- The values of bound variables after one more pair. -/
def recognise (values : String → Option String) (p : String × String) : String → Option String :=
  if (Binding.find? p.1).isSome then Function.update values p.1 (some p.2) else values

/-- The overrides after one more binding: with an override for it, if there is a value. -/
def overrideFrom (values : String → Option String) (os : List Override) (b : Binding) : Outcome Fault (List Override) :=
  match values b.key with
  | none => .ok os
  | some raw => do
    let v ← b.coercion.apply b.key raw
    .ok (os ++ [⟨b, v⟩])

/-- The overrides collected in a pass over the variables and a pass over the table. -/
def collectInPasses (pairs : List (String × String)) : Outcome Fault (List Override) :=
  Binding.table.foldlM (overrideFrom (pairs.foldl recognise fun _ => none)) []

/-- One pair settles its own key, if that is bound. -/
theorem recognise_apply (hb : b ∈ Binding.table) (values : String → Option String) (p : String × String) :
    recognise values p b.key = (if p.1 = b.key then some p.2 else none).or (values b.key) := by
  by_cases hkey : p.1 = b.key
  · rw [if_pos hkey, recognise, hkey, Binding.find?_of_mem hb, Option.isSome_some, if_pos rfl, Function.update_self]
    rfl
  · rw [if_neg hkey, Option.none_or, recognise]
    split
    · rw [Function.update_of_ne (Ne.symm hkey)]
    · rfl

/-- **The first pass** leaves the last value of each bound variable. -/
theorem foldl_recognise_apply (hb : b ∈ Binding.table) (values : String → Option String) :
    pairs.foldl recognise values b.key = (lastValue? pairs b.key).or (values b.key) := by
  induction pairs generalizing values with
  | nil => rfl
  | cons p pairs ih => rw [List.foldl_cons, ih, recognise_apply hb, lastValue?_cons, Option.or_assoc]

/-- **The second pass** adds the overrides of the bindings to those that are there. -/
theorem foldlM_overrideFrom {values : String → Option String} {bs : List Binding}
    (h : ∀ b ∈ bs, values b.key = lastValue? pairs b.key) (os : List Override) :
    bs.foldlM (overrideFrom values) os = (os ++ ·) <$> overridesOf pairs bs := by
  induction bs generalizing os with
  | nil =>
    change Except.ok os = Except.ok (os ++ [])
    rw [List.append_nil]
  | cons b bs ih =>
    obtain ⟨hb, hbs⟩ := List.forall_mem_cons.1 h
    rw [List.foldlM_cons, overrideFrom, overridesOf, hb]
    cases lastValue? pairs b.key with
    | none => exact ih hbs os
    | some raw =>
      dsimp only
      cases b.coercion.apply b.key raw with
      | error stop => rfl
      | ok v =>
        change bs.foldlM (overrideFrom values) (os ++ [⟨b, v⟩]) = _
        rw [ih hbs]
        cases overridesOf pairs bs with
        | error stop => rfl
        | ok rest =>
          change Except.ok (os ++ [⟨b, v⟩] ++ rest) = Except.ok (os ++ ⟨b, v⟩ :: rest)
          rw [List.append_assoc]
          rfl

theorem collectOverrides_eq_collectInPasses (pairs : List (String × String)) :
    collectOverrides pairs = collectInPasses pairs := by
  have hvalues : ∀ b ∈ Binding.table, pairs.foldl recognise (fun _ => none) b.key = lastValue? pairs b.key := by
    intro b hb
    rw [foldl_recognise_apply hb, Option.or_none]
  rw [collectInPasses, foldlM_overrideFrom hvalues, collectOverrides]
  cases overridesOf pairs Binding.table <;> rfl

/-- **The overrides** are collected exactly if the last value of every variable that is to be a duration is one. They are then one
    for each bound variable that occurs, in the order of the table, with its last value coerced; otherwise the fault names the
    first variable of the table whose last value is not accepted. So they depend on the last values alone: earlier values of a
    variable and variables that are not bound are no matter, whatever they hold. -/
theorem collectOverrides_iff (pairs : List (String × String)) :
    collectOverrides pairs = collectInPasses pairs ∧
    ((∃ os, collectOverrides pairs = .ok os) ↔ ∀ b ∈ Binding.table, b.Accepts pairs) ∧
    (∀ os, collectOverrides pairs = .ok os ↔
      os.map (·.binding) = Binding.table.filter (·.key ∈ pairs.map (·.1)) ∧
      ∀ o ∈ os, ∃ raw, IsLastValue pairs o.binding.key raw ∧
        o.binding.coercion.apply o.binding.key raw = .ok o.value) ∧
    (∀ cause, collectOverrides pairs = .error (.fault cause) ↔
      ∃ before b after raw reason, Binding.table = before ++ b :: after ∧ (∀ a ∈ before, a.Accepts pairs) ∧
        b.coercion = .duration ∧ IsLastValue pairs b.key raw ∧ Duration.read raw = report reason ∧
        cause = .unreadableVariable b.key reason) ∧
    (∀ before p after, pairs = before ++ p :: after → p.1 ∈ after.map (·.1) ∨ Binding.find? p.1 = none →
      collectOverrides pairs = collectOverrides (before ++ after)) ∧
    ∀ pairs', (∀ b ∈ Binding.table, ∀ raw, IsLastValue pairs b.key raw ↔ IsLastValue pairs' b.key raw) →
      collectOverrides pairs = collectOverrides pairs' := by
  refine ⟨collectOverrides_eq_collectInPasses pairs, ?_, fun os => collectOverrides_eq_ok_iff, fun cause => ?_, ?_, ?_⟩
  · rw [exists_collectOverrides_iff]
    exact forall₂_congr fun b _ => Binding.exists_coerced_iff
  · rw [collectOverrides_eq_error_iff_read]
    constructor
    · rintro ⟨before, b, after, raw, htable, hbefore, hc, hraw, hread⟩
      obtain ⟨reason, hreason, rfl⟩ := Outcome.mapFault_eq_fault_iff.1 hread
      exact ⟨before, b, after, raw, reason, htable, hbefore, hc, hraw, hreason, rfl⟩
    · rintro ⟨before, b, after, raw, reason, htable, hbefore, hc, hraw, hread, rfl⟩
      exact ⟨before, b, after, raw, htable, hbefore, hc, hraw, Outcome.mapFault_eq_fault_iff.2 ⟨reason, hread, rfl⟩⟩
  · rintro before p after rfl hp
    refine collectOverrides_congr fun b hb => lastValue?_append_cons (hp.imp_right fun hnone hkey => ?_)
    rw [hkey, Binding.find?_of_mem hb] at hnone
    cases hnone
  · intro pairs' h
    refine collectOverrides_congr fun b hb => Option.ext fun raw => ?_
    rw [lastValue?_eq_some_iff, lastValue?_eq_some_iff, h b hb raw]

/-- Variables out of order, with malformed values that later ones take the place of. -/
def shadowed : List (String × String) :=
  [("PROVIDER_SLUG", "okta"), ("SERVER_TIMEOUT_READ", "sixty"), ("HOME", "soon"), ("SESSION_TTL_VALID", " 5m "),
   ("SERVER_TIMEOUT_READ", "60s")]

/-- The malformed values do not matter, but a last value that is malformed does. -/
theorem collectOverrides_iff_shadowed :
    collectOverrides shadowed = .ok
      [⟨⟨"SESSION_TTL_VALID", .ttlValid⟩, .text "5m"⟩, ⟨⟨"SERVER_TIMEOUT_READ", .serverTimeoutRead⟩, .text "60s"⟩,
       ⟨⟨"PROVIDER_SLUG", .providerSlug⟩, .text "okta"⟩] ∧
    collectOverrides (shadowed ++ [("SERVER_TIMEOUT_READ", "s"), ("SESSION_TTL_VALID", "m")]) =
      report (.unreadableVariable "SESSION_TTL_VALID"
        "invalid duration 'm': expected number at 0 (expected e.g. 60s, 3h)") := by
  obtain ⟨-, -, hok, -⟩ := collectOverrides_iff shadowed
  obtain ⟨-, -, -, hfault, -⟩ :=
    collectOverrides_iff (shadowed ++ [("SERVER_TIMEOUT_READ", "s"), ("SESSION_TTL_VALID", "m")])
  constructor
  · refine (hok _).2 ⟨by decide +kernel, ?_⟩
    simp only [List.forall_mem_cons]
    exact ⟨⟨" 5m ", by decide +kernel, by decide +kernel⟩, ⟨"60s", by decide +kernel, by decide +kernel⟩,
      ⟨"okta", by decide +kernel, rfl⟩, List.forall_mem_nil _⟩
  · have hbefore : ∀ a ∈ Binding.table.take 7,
        ∃ v, a.coerced (shadowed ++ [("SERVER_TIMEOUT_READ", "s"), ("SESSION_TTL_VALID", "m")]) = .ok v := by
      intro a ha
      exact ⟨none, Binding.coerced_eq_ok_none_iff.2 (by revert a; decide +kernel)⟩
    have hread : Duration.read "m" = report "invalid duration 'm': expected number at 0 (expected e.g. 60s, 3h)" := by
      decide +kernel
    exact (hfault _).2 ⟨Binding.table.take 7, ⟨"SESSION_TTL_VALID", .ttlValid⟩, Binding.table.drop 8, "m", _, rfl,
      fun a ha => Binding.exists_coerced_iff.1 (hbefore a ha), rfl, by decide +kernel, hread, rfl⟩

end AuthProxy
