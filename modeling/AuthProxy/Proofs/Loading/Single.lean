import AuthProxy.Proofs.Binding.Selection
import AuthProxy.Proofs.Binding.Written
import AuthProxy.Proofs.Loading.Crash

/-!
# Loads of single variables

The text of a variable is taken twice: coerced first, and then read as the value of its field from what the coercion left in the
tree. The two agree: what the coercion accepts is read as the value that the text stands for, by the kind of the field alone
(`Kind.takes_iff`). So the load of a single variable ends as its coercion does, but for flags and ports, which are not looked at
before they are read (`Loader.outcome_single`).
-/

namespace AuthProxy

open Duration Layer Text

/-- The value that a text stands for: a text or a path is the text as it is, and a list the items of the text. -/
def Kind.Takes : (k : Kind) → String → k.Value → Prop
  | .text, raw, (s : String) => s = raw
  | .flag, raw, (b : Bool) => Located.flagWord? (lowerCase raw.toList) = some b
  | .port, raw, (p : UInt16) => ∃ n < 2 ^ 16, Located.number? raw.toList = some n ∧ p = UInt16.ofNat n
  | .duration, raw, (d : Duration) => Duration.read raw = .ok d
  | .texts, raw, (xs : List String) => xs = listItems raw
  | .path, raw, (p : Option String) => p = some raw

/-! ## Taken twice -/

/-- A duration is read from a text as it is from the text without its blanks. -/
theorem Duration.read_trim_eq_ok_iff {raw : String} {d : Duration} :
    read (String.ofList (trim raw.toList)) = .ok d ↔ read raw = .ok d := by
  rw [read, read, Outcome.mapFault_eq_ok_iff, Outcome.mapFault_eq_ok_iff, String.toList_ofList, trim_trim]

theorem Duration.ofList_faultMessage (raw : String) (e : Malformed) : String.ofList (faultMessage raw.toList e) =
    "invalid duration '" ++ raw ++ "': " ++ String.ofList e.message ++ " (expected e.g. 60s, 3h)" := by
  have happend : ∀ (a b c : String) (m : List Char),
      String.ofList (a.toList ++ raw.toList ++ b.toList ++ m ++ c.toList) = a ++ raw ++ b ++ String.ofList m ++ c := by
    intro a b c m
    simp only [String.ofList_append, String.ofList_toList]
  exact happend _ _ _ _

/-- A fault over a duration shows the text as it was given. -/
theorem Duration.read_eq_fault_iff {raw reason : String} : read raw = report reason ↔
    ∃ e, ofText (trim raw.toList) = report e ∧
      reason = "invalid duration '" ++ raw ++ "': " ++ String.ofList e.message ++ " (expected e.g. 60s, 3h)" := by
  rw [report, read, Outcome.mapFault_eq_fault_iff]
  refine exists_congr fun e => and_congr_right fun _ => ?_
  rw [Duration.ofList_faultMessage]
  exact eq_comm

namespace Layer.Located

variable {file : Option String} {key raw : String}

theorem flag_ofText_iff {b : Bool} :
    flag file ⟨.ofText raw, key⟩ = .ok b ↔ flagWord? (lowerCase raw.toList) = some b := by
  rw [flag, Tree.ofText]
  dsimp only
  cases flagWord? (lowerCase raw.toList) with
  | none => simp [report]
  | some b' => rw [Except.ok.injEq, Option.some.injEq]

theorem number_ofText_iff {n : Nat} : number file ⟨.ofText raw, key⟩ = .ok n ↔ number? raw.toList = some n := by
  rw [number, Tree.ofText]
  dsimp only
  cases number? raw.toList with
  | none => simp [wrongType, report]
  | some k => rw [Except.ok.injEq, Option.some.injEq]

theorem port_ofText_iff {p : UInt16} :
    port file ⟨.ofText raw, key⟩ = .ok p ↔ ∃ n < 2 ^ 16, number? raw.toList = some n ∧ p = UInt16.ofNat n := by
  rw [port, Outcome.bind_eq_ok_iff]
  refine exists_congr fun n => ?_
  rw [number_ofText_iff]
  by_cases hn : n < 2 ^ 16
  · rw [if_pos hn, Except.ok.injEq, eq_comm (a := p)]
    exact ⟨fun h => ⟨hn, h⟩, fun h => h.2⟩
  · rw [if_neg hn]
    simp [report, hn]

theorem text_ofText_iff {s : String} : text file ⟨.ofText raw, key⟩ = .ok s ↔ s = raw := by
  rw [eq_comm]
  constructor
  · rintro ⟨⟩
    rfl
  · rintro rfl
    rfl

theorem path_ofText_iff {p : Option String} : path file ⟨.ofText raw, key⟩ = .ok p ↔ p = some raw := by
  constructor
  · rintro ⟨⟩
    rfl
  · rintro rfl
    rfl

theorem texts_ofTexts_iff {xs items : List String} : texts file ⟨.ofTexts items, key⟩ = .ok xs ↔ xs = items := by
  rw [texts_ofTexts, Except.ok.injEq, eq_comm]

theorem duration_ofText_iff {d : Duration} : duration file ⟨.ofText raw, key⟩ = .ok d ↔ Duration.read raw = .ok d := by
  rw [duration, Outcome.bind_eq_ok_iff]
  constructor
  · rintro ⟨s, hs, h⟩
    obtain rfl := text_ofText_iff.1 hs
    exact Outcome.mapFault_eq_ok_iff.1 h
  · exact fun h => ⟨raw, rfl, Outcome.mapFault_eq_ok_iff.2 h⟩

end Layer.Located

/-- **The two passes agree**: the value that is read from what the coercion leaves of a text is the one that the text stands
    for. -/
theorem Kind.takes_iff (k : Kind) (name key raw : String) (x : k.Value) :
    (∃ v, k.coercion.apply name raw = .ok v ∧ Located.value none ⟨Sources.overrideTree v, key⟩ k = .ok x) ↔
      k.Takes raw x := by
  -- but for durations the coercion leaves one value
  have hone : ∀ {w : CoercedValue} {P : CoercedValue → Prop},
      (∃ v, (Except.ok w : Outcome Fault CoercedValue) = .ok v ∧ P v) ↔ P w := by
    simp
  cases k with
  | text =>
    have htext : Located.text none ⟨.ofText raw, key⟩ = .ok x ↔ x = raw := Located.text_ofText_iff
    exact hone.trans htext
  | flag => exact hone.trans Located.flag_ofText_iff
  | port => exact hone.trans Located.port_ofText_iff
  | texts => exact hone.trans Located.texts_ofTexts_iff
  | path => exact hone.trans Located.path_ofText_iff
  | duration =>
    constructor
    · rintro ⟨v, hv, hx⟩
      obtain ⟨-, rfl⟩ := Coercion.eq_ok_of_duration hv
      exact Duration.read_trim_eq_ok_iff.1 (Located.duration_ofText_iff.1 hx)
    · intro hx
      obtain ⟨v, hv⟩ := Coercion.exists_apply_eq_ok_iff.2 fun _ => ⟨x, hx⟩
      obtain ⟨-, rfl⟩ := Coercion.eq_ok_of_duration hv
      exact ⟨_, hv, Located.duration_ofText_iff.2 (Duration.read_trim_eq_ok_iff.2 hx)⟩

/-- What is not coerced as a text is no flag and no port. -/
theorem Binding.kind_ne_of_coercion {b : Binding} (h : b.coercion ≠ .text) : b.field.kind ≠ .flag ∧ b.field.kind ≠ .port := by
  revert h
  rw [Binding.coercion]
  cases b.field.kind <;> decide

/-- What the coercion accepts stands for a value, except where it may be no flag or no port. -/
theorem Kind.exists_takes {k : Kind} {name raw : String} {v : CoercedValue} (h : k.coercion.apply name raw = .ok v)
    (hflag : k ≠ .flag) (hport : k ≠ .port) : ∃ x, k.Takes raw x := by
  cases k with
  | text => exact ⟨raw, rfl⟩
  | flag => exact absurd rfl hflag
  | port => exact absurd rfl hport
  | texts => exact ⟨listItems raw, rfl⟩
  | path => exact ⟨some raw, rfl⟩
  | duration => exact (Coercion.eq_ok_of_duration h).1

namespace Loader

variable {fs : FileSystem} {b : Binding} {raw : String} {w : Walk}

/-- The load of a single variable sets its field to the value that the text stands for, and gives the defaults otherwise. -/
theorem outcome_single_eq_ok_iff (hb : b ∈ Binding.table) {e : Configuration} :
    (loadFrom fs {} [(b.key, raw)] w).outcome = .ok e ↔
      ∃ x, b.field.kind.Takes raw x ∧ e = Field.set .default b.field x := by
  rw [outcome_single_iff hb]
  constructor
  · rintro ⟨hgives, hrest⟩
    refine ⟨Field.get e b.field, (Kind.takes_iff _ _ _ _ _).1 hgives, Configuration.ext_field fun f => ?_⟩
    by_cases hf : f = b.field
    · subst hf
      rw [Field.get_set]
    · rw [hrest f hf, Field.get_set_of_ne _ _ hf]
  · rintro ⟨x, hx, rfl⟩
    refine ⟨?_, fun f hf => Field.get_set_of_ne _ _ hf⟩
    rw [Field.get_set]
    exact (Kind.takes_iff _ _ _ _ _).2 hx

/-- It succeeds where the coercion does, but for flags and ports. -/
theorem exists_outcome_of_coerced (hb : b ∈ Binding.table) {v : CoercedValue} (hv : b.coercion.apply b.key raw = .ok v)
    (hflag : b.field.kind ≠ .flag) (hport : b.field.kind ≠ .port) :
    ∃ e, (loadFrom fs {} [(b.key, raw)] w).outcome = .ok e := by
  obtain ⟨x, hx⟩ := Kind.exists_takes hv hflag hport
  exact ⟨_, (outcome_single_eq_ok_iff hb).2 ⟨x, hx, rfl⟩⟩

/-- It stops where the coercion does, for the same reason. -/
theorem outcome_of_not_coerced (hb : b ∈ Binding.table) {stop : Stop Fault}
    (h : b.coercion.apply b.key raw = .error stop) :
    (loadFrom fs {} [(b.key, raw)] w).outcome = .error (stop.map .ofFault) := by
  have hlast : ∀ key, lastValue? [(b.key, raw)] key = if b.key = key then some raw else none := fun key =>
    lastValue?_cons (b.key, raw) [] key
  have hcollect : collectOverrides [(b.key, raw)] = .error stop := by
    refine collectOverrides_eq_error_iff.2 ⟨b, stopsAt_of_forall_ne hb ?_ fun a ha hne => ⟨none, ?_⟩⟩
    · rw [Binding.coerced_eq_error_iff, hlast, if_pos rfl]
      exact ⟨raw, rfl, h⟩
    · rw [Binding.coerced_eq_ok_none_iff, hlast, if_neg fun hkey => hne (eq_of_key_eq ha hb hkey.symm)]
  rw [loadFrom_of_error hcollect, stopped_outcome]

/-- So, but for flags and ports, the load and the coercion succeed together. -/
theorem exists_outcome_single_iff_coerced (hb : b ∈ Binding.table) (hflag : b.field.kind ≠ .flag)
    (hport : b.field.kind ≠ .port) :
    (∃ e, (loadFrom fs {} [(b.key, raw)] w).outcome = .ok e) ↔ ∃ v, b.coercion.apply b.key raw = .ok v := by
  constructor
  · rintro ⟨e, he⟩
    cases happly : b.coercion.apply b.key raw with
    | ok v => exact ⟨v, rfl⟩
    | error cause =>
      rw [outcome_of_not_coerced hb happly] at he
      cases he
  · rintro ⟨v, hv⟩
    exact exists_outcome_of_coerced hb hv hflag hport

/-- And they stop together. -/
theorem outcome_single_eq_error_iff (hb : b ∈ Binding.table) (hflag : b.field.kind ≠ .flag)
    (hport : b.field.kind ≠ .port) {stop : Stop LoadFault} :
    (loadFrom fs {} [(b.key, raw)] w).outcome = .error stop ↔
      ∃ cause, b.coercion.apply b.key raw = .error cause ∧ cause.map .ofFault = stop := by
  cases happly : b.coercion.apply b.key raw with
  | ok v =>
    obtain ⟨e, he⟩ : ∃ e, (loadFrom fs {} [(b.key, raw)] w).outcome = .ok e :=
      exists_outcome_of_coerced hb happly hflag hport
    rw [he]
    refine iff_of_false (by rintro ⟨⟩) ?_
    rintro ⟨_, ⟨⟩, -⟩
  | error cause =>
    rw [outcome_of_not_coerced hb happly, Except.error.injEq]
    constructor
    · exact fun h => ⟨cause, rfl, h⟩
    · rintro ⟨_, h, rfl⟩
      cases h
      rfl

section Durations

variable (hb : b ∈ Binding.table) (hc : b.coercion = .duration)

include hb hc

theorem exists_outcome_single_duration_iff :
    (∃ e, (loadFrom fs {} [(b.key, raw)] w).outcome = .ok e) ↔ ∃ d, Duration.read raw = .ok d := by
  obtain ⟨hflag, hport⟩ := Binding.kind_ne_of_coercion (b := b) (by rw [hc]; decide)
  rw [exists_outcome_single_iff_coerced hb hflag hport, Coercion.exists_apply_eq_ok_iff]
  exact ⟨fun h => h hc, fun h _ => h⟩

theorem outcome_single_duration_eq_error_iff {stop : Stop LoadFault} :
    (loadFrom fs {} [(b.key, raw)] w).outcome = .error stop ↔
      ∃ cause, (Duration.read raw).mapFault (Fault.unreadableVariable b.key) = .error cause ∧ cause.map .ofFault = stop := by
  obtain ⟨hflag, hport⟩ := Binding.kind_ne_of_coercion (b := b) (by rw [hc]; decide)
  rw [outcome_single_eq_error_iff hb hflag hport]
  simp only [Coercion.apply_eq_error_iff, hc, true_and]

/-- A variable that takes durations is refused with its name and the text as it was given. -/
theorem outcome_single_duration_eq_fault_iff {f : LoadFault} :
    (loadFrom fs {} [(b.key, raw)] w).outcome = report f ↔
      ∃ e, ofText (trim raw.toList) = report e ∧ f = .ofFault (.unreadableVariable b.key
        ("invalid duration '" ++ raw ++ "': " ++ String.ofList e.message ++ " (expected e.g. 60s, 3h)")) := by
  rw [report, outcome_single_duration_eq_error_iff hb hc]
  constructor
  · rintro ⟨cause, hcause, hf⟩
    cases cause with
    | crash => cases hf
    | fault cause =>
      obtain ⟨reason, hread, rfl⟩ := Outcome.mapFault_eq_fault_iff.1 hcause
      obtain ⟨e, he, rfl⟩ := Duration.read_eq_fault_iff.1 hread
      cases hf
      exact ⟨e, he, rfl⟩
  · rintro ⟨e, he, rfl⟩
    exact ⟨_, Outcome.mapFault_eq_fault_iff.2 ⟨_, Duration.read_eq_fault_iff.2 ⟨e, he, rfl⟩, rfl⟩, rfl⟩

theorem outcome_single_duration_eq_crash_iff :
    (loadFrom fs {} [(b.key, raw)] w).outcome = .error .crash ↔ Overfills raw := by
  rw [outcome_single_duration_eq_error_iff hb hc, ← read_eq_crash]
  constructor
  · rintro ⟨cause, hcause, hcrash⟩
    cases cause with
    | crash => exact Outcome.mapFault_eq_crash_iff.1 hcause
    | fault cause => cases hcrash
  · exact fun h => ⟨.crash, Outcome.mapFault_eq_crash_iff.2 h, rfl⟩

end Durations

/-- **The load of a single variable** sets its field to the value that its text stands for, and leaves the defaults otherwise.
    Where durations are taken, it succeeds exactly if one can be read from the text; the fault names the variable and shows the
    text as it was given, and what crashes the reader crashes the load. Where lists, texts and paths are taken, it always
    succeeds. So what the coercion accepts is not refused later, except for flags and ports. -/
theorem outcome_single (fs : FileSystem) (hb : b ∈ Binding.table) (raw : String) (w : Walk) :
    (∀ e, (loadFrom fs {} [(b.key, raw)] w).outcome = .ok e ↔
      ∃ x, b.field.kind.Takes raw x ∧ e = Field.set .default b.field x) ∧
    (b.coercion = .duration →
      ((∃ e, (loadFrom fs {} [(b.key, raw)] w).outcome = .ok e) ↔ ∃ d, Duration.read raw = .ok d) ∧
      (∀ f, (loadFrom fs {} [(b.key, raw)] w).outcome = report f ↔
        ∃ e, ofText (trim raw.toList) = report e ∧ f = .ofFault (.unreadableVariable b.key
          ("invalid duration '" ++ raw ++ "': " ++ String.ofList e.message ++ " (expected e.g. 60s, 3h)"))) ∧
      ((loadFrom fs {} [(b.key, raw)] w).outcome = .error .crash ↔ Overfills raw)) ∧
    (b.coercion = .list → ∃ e, (loadFrom fs {} [(b.key, raw)] w).outcome = .ok e) ∧
    (b.field.kind = .text ∨ b.field.kind = .path → ∃ e, (loadFrom fs {} [(b.key, raw)] w).outcome = .ok e) ∧
    ∀ v, b.coercion.apply b.key raw = .ok v → b.field.kind ≠ .flag → b.field.kind ≠ .port →
      ∃ e, (loadFrom fs {} [(b.key, raw)] w).outcome = .ok e := by
  refine ⟨fun e => outcome_single_eq_ok_iff hb, fun hc => ?_, fun hc => ?_, fun hkind => ?_, fun v hv hflag hport => ?_⟩
  · exact ⟨exists_outcome_single_duration_iff hb hc, fun f => outcome_single_duration_eq_fault_iff hb hc,
      outcome_single_duration_eq_crash_iff hb hc⟩
  · have happly : b.coercion.apply b.key raw = .ok (.list (listItems raw)) := by
      rw [hc]
      rfl
    obtain ⟨hflag, hport⟩ := Binding.kind_ne_of_coercion (b := b) (by rw [hc]; decide)
    exact exists_outcome_of_coerced hb happly hflag hport
  · have happly : b.coercion.apply b.key raw = .ok (.text raw) := by
      rw [Binding.coercion]
      rcases hkind with hkind | hkind <;> rw [hkind] <;> rfl
    have hne : b.field.kind ≠ .flag ∧ b.field.kind ≠ .port := by
      rcases hkind with hkind | hkind <;> rw [hkind] <;> decide
    exact exists_outcome_of_coerced hb happly hne.1 hne.2
  · exact exists_outcome_of_coerced hb hv hflag hport

/-- A duration between blanks is taken without them, but shown with them where it is malformed; a text that looks like a
    duration keeps its blanks. -/
theorem outcome_single_blanks :
    (loadFrom .blank {} [("SESSION_TTL_VALID", "\u2003 1h 30m\t")] {}).outcome =
      .ok { Configuration.default with session.ttl.valid := ⟨5400, 0, by decide, by decide⟩ } ∧
    (loadFrom .blank {} [("SESSION_TTL_VALID", " soon\t")] {}).outcome =
      report (.ofFault (.unreadableVariable "SESSION_TTL_VALID"
        "invalid duration ' soon\t': expected number at 0 (expected e.g. 60s, 3h)")) ∧
    (loadFrom .blank {} [("PROVIDER_SLUG", " 60s ")] {}).outcome =
      .ok { Configuration.default with provider.slug := " 60s " } := by
  obtain ⟨hvalid, -⟩ := outcome_single .blank
    (by decide : ⟨"SESSION_TTL_VALID", .ttlValid⟩ ∈ Binding.table) "\u2003 1h 30m\t" {}
  obtain ⟨-, hrefused, -⟩ := outcome_single .blank
    (by decide : ⟨"SESSION_TTL_VALID", .ttlValid⟩ ∈ Binding.table) " soon\t" {}
  obtain ⟨hslug, -⟩ := outcome_single .blank
    (by decide : ⟨"PROVIDER_SLUG", .providerSlug⟩ ∈ Binding.table) " 60s " {}
  refine ⟨(hvalid _).2 ⟨_, ?_, rfl⟩, ((hrefused rfl).2.1 _).2 ⟨.numberExpected 0, ?_, ?_⟩, (hslug _).2 ⟨_, rfl, rfl⟩⟩
  · show Duration.read "\u2003 1h 30m\t" = _
    decide +kernel
  · decide +kernel
  · decide +kernel

end Loader

end AuthProxy
