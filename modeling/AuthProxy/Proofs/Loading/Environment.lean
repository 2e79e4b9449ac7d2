import AuthProxy.Loading.Environment
import AuthProxy.Proofs.Loading.Walks
import AuthProxy.Proofs.Text.Utf8

/-!
# What a load sees of the environment

A load reads the variables that are bound to a field, and the one that names its file. Of the bound ones it takes the texts
(`Environment.pair?`), in order, unless one of them is no text: the first of these stray ones is then all that the load sees
(`Environment.boundPairs_eq_ok_iff`, `Environment.boundPairs_eq_error_iff`). Any other variable may be there or not
(`Loader.load_bound`). But what a load sees does not settle its end: of several fields that cannot be read any may be the one that is
named, and keys of the file that meet in one place may be put there in any order (`Loader.load_in_two_orders`).
-/

namespace AuthProxy

open Text

theorem Binding.isSome_find?_iff {key : String} : (find? key).isSome ↔ ∃ b ∈ table, b.key = key := by
  rw [find?, List.find?_isSome]
  simp only [beq_iff_eq]

namespace Environment

/-- A variable that is bound to a field. -/
def IsBound (v : Bytes × Bytes) : Prop :=
  ∃ b ∈ Binding.table, v.1 = encodeUtf8 b.key.toList

instance : DecidablePred IsBound :=
  fun v => inferInstanceAs (Decidable (∃ b ∈ Binding.table, v.1 = encodeUtf8 b.key.toList))

/-- A variable that is bound to a field and has a value that is no text. -/
def IsStray (v : Bytes × Bytes) : Prop :=
  IsBound v ∧ decodeUtf8? v.2 = none

instance : DecidablePred IsStray :=
  fun v => inferInstanceAs (Decidable (IsBound v ∧ decodeUtf8? v.2 = none))

/-- The first bound variable whose value is no text. -/
def firstStray? (env : Environment) : Option (Bytes × Bytes) :=
  env.find? (IsStray ·)

/-- The fault of a bound variable whose value is no text. -/
def strayFault (key : String) : Fault :=
  .unreadableVariable key "value is not valid UTF-8"

theorem boundKey?_eq_some_iff {name : Bytes} {key : String} :
    boundKey? name = some key ↔ (∃ b ∈ Binding.table, b.key = key) ∧ name = encodeUtf8 key.toList := by
  rw [← Binding.isSome_find?_iff]
  constructor
  · intro h
    obtain ⟨text, htext, h⟩ := Option.bind_eq_some_iff.1 h
    dsimp only at h
    split at h
    next hbound =>
      cases h
      rw [String.toList_ofList]
      exact ⟨hbound, (encodeUtf8_of_decodeUtf8? htext).symm⟩
    next => cases h
  · rintro ⟨hbound, rfl⟩
    simp only [boundKey?, decodeUtf8?_encodeUtf8, bind, Option.bind, String.ofList_toList, hbound, if_true]

theorem isSome_boundKey?_iff {v : Bytes × Bytes} : (boundKey? v.1).isSome ↔ IsBound v := by
  rw [Option.isSome_iff_exists]
  simp only [boundKey?_eq_some_iff]
  constructor
  · rintro ⟨_, ⟨b, hb, rfl⟩, hname⟩
    exact ⟨b, hb, hname⟩
  · rintro ⟨b, hb, hname⟩
    exact ⟨b.key, ⟨b, hb, rfl⟩, hname⟩

/-- A variable as a pair of texts, if it is bound and has a text for a value. -/
def pair? (v : Bytes × Bytes) : Option (String × String) := do
  let key ← boundKey? v.1
  let text ← decodeUtf8? v.2
  some (key, String.ofList text)

/-! ## One variable -/

theorem pair?_of_not_isBound {v : Bytes × Bytes} (h : ¬ IsBound v) : pair? v = none := by
  have hname : boundKey? v.1 = none := by
    rwa [← isSome_boundKey?_iff, Bool.not_eq_true, Option.isSome_eq_false_iff, Option.isNone_iff_eq_none] at h
  rw [pair?, hname]
  rfl

/-- A variable that is not bound is passed over, whatever bytes it is made of. -/
theorem boundPairs_cons_of_not_isBound {v : Bytes × Bytes} (h : ¬ IsBound v) (env : Environment) :
    boundPairs (v :: env) = boundPairs env := by
  have hname : boundKey? v.1 = none := by
    rwa [← isSome_boundKey?_iff, Bool.not_eq_true, Option.isSome_eq_false_iff, Option.isNone_iff_eq_none] at h
  rw [boundPairs, hname]

/-- A bound variable that is no text ends the reading. -/
theorem boundPairs_cons_of_isStray {b : Binding} (hb : b ∈ Binding.table) {value : Bytes} (h : decodeUtf8? value = none)
    (env : Environment) : boundPairs ((encodeUtf8 b.key.toList, value) :: env) = .error (strayFault b.key) := by
  have hname : boundKey? (encodeUtf8 b.key.toList) = some b.key := boundKey?_eq_some_iff.2 ⟨⟨b, hb, rfl⟩, rfl⟩
  rw [boundPairs, hname]
  dsimp only
  rw [h]
  rfl

/-- A bound variable that is a text comes in front of the others. -/
theorem boundPairs_cons_of_pair? {v : Bytes × Bytes} {p : String × String} (h : pair? v = some p) (env : Environment) :
    boundPairs (v :: env) = (p :: ·) <$> boundPairs env := by
  obtain ⟨key, hkey, h⟩ := Option.bind_eq_some_iff.1 h
  obtain ⟨text, htext, h⟩ := Option.bind_eq_some_iff.1 h
  cases h
  rw [boundPairs, hkey]
  dsimp only
  rw [htext]
  cases boundPairs env <;> rfl

/-- A bound variable is stray or makes a pair. -/
theorem IsBound.stray_or_pair {v : Bytes × Bytes} (h : IsBound v) :
    (∃ b ∈ Binding.table, v.1 = encodeUtf8 b.key.toList ∧ decodeUtf8? v.2 = none) ∨ ∃ p, pair? v = some p ∧ ¬ IsStray v := by
  obtain ⟨b, hb, hname⟩ := h
  cases hvalue : decodeUtf8? v.2 with
  | none => exact .inl ⟨b, hb, hname, rfl⟩
  | some text =>
    have hkey : boundKey? v.1 = some b.key := boundKey?_eq_some_iff.2 ⟨⟨b, hb, rfl⟩, hname⟩
    refine .inr ⟨(b.key, String.ofList text), ?_, fun hstray => ?_⟩
    · rw [pair?, hkey, hvalue]
      rfl
    · rw [hstray.2] at hvalue
      cases hvalue

/-! ## All variables -/

variable {env env' : Environment}

theorem firstStray?_cons_of_isStray {v : Bytes × Bytes} (h : IsStray v) (env : Environment) :
    firstStray? (v :: env) = some v :=
  List.find?_cons_of_pos (decide_eq_true h)

theorem firstStray?_cons_of_not_isStray {v : Bytes × Bytes} (h : ¬ IsStray v) (env : Environment) :
    firstStray? (v :: env) = env.firstStray? :=
  List.find?_cons_of_neg (by simpa using h)

theorem isStray_of_firstStray? {v : Bytes × Bytes} (h : env.firstStray? = some v) : IsStray v := by
  simpa using List.find?_some h

/-- There is a first stray variable if there is any. -/
theorem exists_stray_iff : (∃ v ∈ env, IsStray v) ↔ ∃ v, env.firstStray? = some v := by
  rw [firstStray?, ← Option.isSome_iff_exists, List.find?_isSome]
  simp only [decide_eq_true_eq]

/-- It is the first one whatever comes behind it. -/
theorem firstStray?_append_of_isStray {v : Bytes × Bytes} (h : ∀ w ∈ env, ¬ IsStray w) (hv : IsStray v) (behind : Environment) :
    firstStray? (env ++ v :: behind) = some v := by
  have hnone : env.firstStray? = none := List.find?_eq_none.2 fun w hw => by simpa using h w hw
  rw [firstStray?, List.find?_append]
  change env.firstStray?.or (firstStray? (v :: behind)) = _
  rw [hnone, firstStray?_cons_of_isStray hv, Option.none_or]

theorem boundPairs_eq_ok_iff {pairs : List (String × String)} :
    env.boundPairs = .ok pairs ↔ env.firstStray? = none ∧ pairs = env.filterMap pair? := by
  induction env generalizing pairs with
  | nil =>
    constructor
    · intro h
      cases h
      exact ⟨rfl, rfl⟩
    · rintro ⟨-, rfl⟩
      rfl
  | cons v env ih =>
    by_cases hbound : IsBound v
    · rcases hbound.stray_or_pair with ⟨b, hb, hname, hvalue⟩ | ⟨p, hp, hstray⟩
      · obtain ⟨name, value⟩ := v
        dsimp only at hname hvalue
        subst hname
        rw [boundPairs_cons_of_isStray hb hvalue, firstStray?_cons_of_isStray ⟨hbound, hvalue⟩]
        exact ⟨fun h => (nomatch h), fun h => (nomatch h.1)⟩
      · rw [boundPairs_cons_of_pair? hp, Outcome.map_eq_ok_iff, firstStray?_cons_of_not_isStray hstray,
          List.filterMap_cons_some hp]
        constructor
        · rintro ⟨rest, hrest, rfl⟩
          obtain ⟨hfind, rfl⟩ := ih.1 hrest
          exact ⟨hfind, rfl⟩
        · rintro ⟨hfind, rfl⟩
          exact ⟨_, ih.2 ⟨hfind, rfl⟩, rfl⟩
    · rw [boundPairs_cons_of_not_isBound hbound, firstStray?_cons_of_not_isStray fun h => hbound h.1,
        List.filterMap_cons_none (pair?_of_not_isBound hbound), ih]

theorem boundPairs_eq_error_iff {cause : Fault} : env.boundPairs = .error cause ↔
    ∃ b ∈ Binding.table, ∃ value, env.firstStray? = some (encodeUtf8 b.key.toList, value) ∧ cause = strayFault b.key := by
  induction env with
  | nil => exact ⟨fun h => (nomatch h), fun ⟨_, _, _, h, _⟩ => (nomatch h)⟩
  | cons v env ih =>
    by_cases hbound : IsBound v
    · rcases hbound.stray_or_pair with ⟨b, hb, hname, hvalue⟩ | ⟨p, hp, hstray⟩
      · obtain ⟨name, value⟩ := v
        dsimp only at hname hvalue
        subst hname
        rw [boundPairs_cons_of_isStray hb hvalue, firstStray?_cons_of_isStray ⟨hbound, hvalue⟩]
        constructor
        · intro h
          cases h
          exact ⟨b, hb, value, rfl, rfl⟩
        · rintro ⟨b', hb', value', hfind, rfl⟩
          obtain ⟨hkey, -⟩ := Prod.mk.inj (Option.some.inj hfind)
          rw [String.toList_inj.1 (encodeUtf8_injective hkey)]
      · rw [boundPairs_cons_of_pair? hp, Outcome.map_eq_error_iff, firstStray?_cons_of_not_isStray hstray, ih]
    · rw [boundPairs_cons_of_not_isBound hbound, firstStray?_cons_of_not_isStray fun h => hbound h.1, ih]

/-- Bound variables alone are read. -/
theorem boundPairs_filter (env : Environment) : boundPairs (env.filter IsBound) = env.boundPairs := by
  induction env with
  | nil => rfl
  | cons v env ih =>
    by_cases hbound : IsBound v
    · rw [List.filter_cons_of_pos (by simpa using hbound)]
      obtain ⟨name, value⟩ := v
      rw [boundPairs, boundPairs, ih]
    · rw [List.filter_cons_of_neg (by simpa using hbound), boundPairs_cons_of_not_isBound hbound, ih]

end Environment

/-! ## Loads -/

namespace Duration

/-- What is wrong with a text of a duration is said in words that begin with these. -/
theorem prefix_faultMessage (raw : List Char) (e : Malformed) : "invalid duration '".toList <+: faultMessage raw e := by
  unfold faultMessage
  rw [List.append_assoc, List.append_assoc, List.append_assoc]
  exact List.prefix_append _ _

theorem prefix_of_read {raw reason : String} (h : read raw = .error (.fault reason)) :
    "invalid duration '".toList <+: reason.toList := by
  obtain ⟨e, -, rfl⟩ := Outcome.mapFault_eq_fault_iff.1 h
  have hprefix := prefix_faultMessage raw.toList e
  rwa [← String.toList_ofList (l := faultMessage raw.toList e)] at hprefix

end Duration

/-- A variable that cannot be coerced is a text that is no duration. -/
theorem Coercion.apply_ne_strayFault {c : Coercion} {key key' raw : String} :
    c.apply key raw ≠ .error (.fault (Environment.strayFault key')) := by
  intro h
  obtain ⟨-, h⟩ := apply_eq_error_iff.1 h
  obtain ⟨reason, hread, hfault⟩ := Outcome.mapFault_eq_fault_iff.1 h
  obtain ⟨-, rfl⟩ := Fault.unreadableVariable.inj hfault
  have hwords : ¬ "invalid duration '".toList <+: "value is not valid UTF-8".toList := by simp
  exact hwords (Duration.prefix_of_read hread)

theorem collectOverrides_ne_strayFault {pairs : List (String × String)} {key : String} :
    collectOverrides pairs ≠ .error (.fault (Environment.strayFault key)) := by
  intro h
  obtain ⟨b, hb⟩ := collectOverrides_eq_error_iff.1 h
  obtain ⟨raw, -, herror⟩ := Binding.coerced_eq_error_iff.1 hb.error
  exact Coercion.apply_ne_strayFault herror

namespace Loader

open Environment Layer

variable {fs : FileSystem} {l : Loader} {env env' : Environment} {pairs : List (String × String)} {w : Walk}

/-- Variables that are texts are no cause to say that one is not. -/
theorem outcome_ne_strayFault {key : String} :
    (l.loadFrom fs pairs w).outcome ≠ report (.ofFault (strayFault key)) := by
  intro h
  obtain ⟨cause, hcause, h⟩ := outcome_eq_fault_iff.1 h
  cases congrArg LoadFault.cause hcause
  rcases h with h | ⟨os, -, h | ⟨base, file, misfit, -, -, h⟩⟩
  · exact collectOverrides_ne_strayFault h
  · rcases fault_of_fileTree h with ⟨_, h⟩ | ⟨_, _, h⟩ | ⟨_, h⟩ <;> cases h
  · cases h

/-- A load is determined by the bound variables and by the file. -/
theorem load_congr (hpairs : env.boundPairs = env'.boundPairs) (hfile : (l.file <|> env.file?) = (l.file <|> env'.file?))
    (w : Walk) : l.load fs env w = l.load fs env' w := by
  rw [load, load, hpairs, hfile]

/-- **A stray variable stops a load** before anything else is looked at. -/
theorem load_of_firstStray? {b : Binding} (hb : b ∈ Binding.table) {value : Bytes}
    (h : env.firstStray? = some (encodeUtf8 b.key.toList, value)) (fs : FileSystem) (l : Loader) (w : Walk) :
    l.load fs env w = .stopped [] (.fault (strayFault b.key)) := by
  rw [load, boundPairs_eq_error_iff.2 ⟨b, hb, value, h, rfl⟩]

/-- It is one of a bound variable that is named. -/
theorem exists_load_of_firstStray? {v : Bytes × Bytes} (h : env.firstStray? = some v) :
    ∃ b ∈ Binding.table, v.1 = encodeUtf8 b.key.toList ∧
      ∀ (fs : FileSystem) (l : Loader) (w : Walk), l.load fs env w = .stopped [] (.fault (strayFault b.key)) := by
  obtain ⟨name, value⟩ := v
  obtain ⟨b, hb, rfl⟩ := (isStray_of_firstStray? h).1
  exact ⟨b, hb, rfl, load_of_firstStray? hb h⟩

theorem outcome_load_eq_strayFault_iff {key : String} : (l.load fs env w).outcome = report (.ofFault (strayFault key)) ↔
    ∃ value, env.firstStray? = some (encodeUtf8 key.toList, value) := by
  constructor
  · intro h
    rw [load] at h
    cases hpairs : env.boundPairs with
    | ok pairs =>
      rw [hpairs] at h
      exact absurd h outcome_ne_strayFault
    | error cause =>
      rw [hpairs] at h
      obtain ⟨b, -, value, hfirst, rfl⟩ := boundPairs_eq_error_iff.1 hpairs
      cases h
      exact ⟨value, hfirst⟩
  · rintro ⟨value, h⟩
    obtain ⟨⟨b, hb, hname⟩, -⟩ := isStray_of_firstStray? h
    rw [← String.toList_inj.1 (encodeUtf8_injective hname.symm)] at h ⊢
    rw [load_of_firstStray? hb h]
    rfl

/-- Two loads end over fields that cannot be read, each over another one. -/
def NameTwoFields (fs : FileSystem) (l : Loader) (env : Environment) (v w : Walk) : Prop :=
  ∃ pairs f g stop stop', env.boundPairs = .ok pairs ∧ f ≠ g ∧
    FieldStops fs ⟨l.file <|> env.file?⟩ pairs v f stop ∧ FieldStops fs ⟨l.file <|> env.file?⟩ pairs v g stop' ∧
    (l.load fs env v).outcome = stoppedAt stop ∧ (l.load fs env w).outcome = stoppedAt stop'

/-- **Two loads of one environment** over a file whose keys are apart do the same, or name different fields. -/
theorem load_eq_or_nameTwoFields (hl : Loader.Apart fs ⟨l.file <|> env.file?⟩) (v w : Walk) :
    l.load fs env v = l.load fs env w ∨ NameTwoFields fs l env v w := by
  unfold NameTwoFields
  rw [load, load]
  cases hpairs : env.boundPairs with
  | error cause => exact .inl rfl
  | ok pairs =>
    rcases loadFrom_eq_or_fieldStops hl pairs v w with h | ⟨f, g, stop, stop', h⟩
    · exact .inl h
    · exact .inr ⟨pairs, f, g, stop, stop', rfl, h⟩

/-- **Unrelated variables are invisible.** In any order of its tables a load is the same in two environments whose bound variables
    are the same, in the same order, if the same file is named in them; what is named there counts for nothing with a loader that has
    a file. It fails over the encoding of a variable exactly if a bound one is stray, and then over the first of these, whatever the
    files are and whatever the other variables are set to. In two orders it is the same over a file whose keys are apart, but for
    which field is named of several that cannot be read. -/
theorem load_bound (fs : FileSystem) (l : Loader) :
    (∀ (env env' : Environment) (w : Walk), env.filter IsBound = env'.filter IsBound →
      env.value? fileVariable = env'.value? fileVariable → l.load fs env w = l.load fs env' w) ∧
    (∀ (env env' : Environment) (path : Bytes) (w : Walk), env.filter IsBound = env'.filter IsBound →
      (l.withFile path).load fs env w = (l.withFile path).load fs env' w) ∧
    (∀ (env : Environment) (w : Walk),
      (∃ key, (l.load fs env w).outcome = report (.ofFault (strayFault key))) ↔ ∃ v ∈ env, IsStray v) ∧
    (∀ (before : Environment) (v : Bytes × Bytes) (behind : Environment), (∀ w ∈ before, ¬ IsStray w) → IsStray v →
      ∃ b ∈ Binding.table, v.1 = encodeUtf8 b.key.toList ∧
        ∀ w : Walk, l.load fs (before ++ v :: behind) w = .stopped [] (.fault (strayFault b.key))) ∧
    ∀ (env : Environment) (v w : Walk), Loader.Apart fs ⟨l.file <|> env.file?⟩ →
      l.load fs env v = l.load fs env w ∨ NameTwoFields fs l env v w := by
  have hpairs : ∀ {env env' : Environment}, env.filter IsBound = env'.filter IsBound → env.boundPairs = env'.boundPairs := by
    intro env env' h
    rw [← boundPairs_filter env, h, boundPairs_filter]
  refine ⟨fun env env' w h hfile => ?_, fun env env' path w h => ?_, fun env w => ?_, fun before v behind hbefore hv => ?_,
    fun env v w hl => load_eq_or_nameTwoFields hl v w⟩
  · exact load_congr (hpairs h) (by rw [file?, file?, hfile]) w
  · exact load_congr (hpairs h) rfl w
  · rw [exists_stray_iff]
    constructor
    · rintro ⟨key, h⟩
      exact ⟨_, (outcome_load_eq_strayFault_iff.1 h).choose_spec⟩
    · rintro ⟨v, h⟩
      obtain ⟨b, -, -, hload⟩ := exists_load_of_firstStray? h
      exact ⟨b.key, by rw [hload]; rfl⟩
  · obtain ⟨b, hb, hname, hload⟩ := exists_load_of_firstStray? (firstStray?_append_of_isStray hbefore hv behind)
    exact ⟨b, hb, hname, hload fs l⟩

/-- An environment that has a bound variable between two that are no texts. -/
def junkAround : Environment :=
  [([0xFF], [0xFF]), (encodeUtf8 "CLIENT_ID".toList, [0x61]), ([], [0xC0])]

/-- The junk is not seen; a stray variable behind it is, ahead of a port that is no number. -/
theorem load_bound_junkAround :
    load .blank junkAround {} {} = load .blank [(encodeUtf8 "CLIENT_ID".toList, [0x61])] {} {} ∧
    load .blank (junkAround ++ (encodeUtf8 "CLIENT_SECRET".toList, [0xFF]) :: [(encodeUtf8 "SERVER_PORT".toList, [0x78])]) {} {} =
      .stopped [] (.fault (strayFault "CLIENT_SECRET")) := by
  obtain ⟨hsame, -, -, hstray, -⟩ := load_bound .blank {}
  refine ⟨hsame _ _ _ (by decide +kernel) (by decide +kernel), ?_⟩
  obtain ⟨b, -, hname, hload⟩ := hstray junkAround (encodeUtf8 "CLIENT_SECRET".toList, [0xFF])
    [(encodeUtf8 "SERVER_PORT".toList, [0x78])] (by decide +kernel) (by decide +kernel)
  rw [hload, String.toList_inj.1 (encodeUtf8_injective hname)]

/-- An environment with two ports that are no numbers. -/
def noPorts : Environment :=
  [(encodeUtf8 "SERVER_PORT".toList, encodeUtf8 "abc".toList), (encodeUtf8 "METRICS_STATSD_PORT".toList, encodeUtf8 "xyz".toList)]

/-- A file system with one regular file, which has two keys that lead to one port. -/
def meetingKeys : FileSystem :=
  .single "\"server.port\" = 1\n[server]\nport = 2\n".toList

/-- The walk that puts the keys of a file from the last one on. -/
def backwards : Walk where
  keys := List.reverse
  perm := List.reverse_perm
  keys_congr t t' h := by rw [List.map_reverse, List.map_reverse, h]

/-- **The order of the tables decides** which of the two ports is at fault, and which of the two values is loaded. -/
theorem load_in_two_orders :
    (load .blank noPorts {} (Walk.front {} .serverPort)).outcome =
      report (.ofFault (.misfit (.wrongType (.text "abc") "an integer" "server.port" none))) ∧
    (load .blank noPorts {} (Walk.front {} .statsdPort)).outcome =
      report (.ofFault (.misfit (.wrongType (.text "xyz") "an integer" "metrics.statsd.port" none))) ∧
    (load meetingKeys [] ⟨some [99]⟩ {}).outcome = .ok { Configuration.default with server.port := 2 } ∧
    (load meetingKeys [] ⟨some [99]⟩ backwards).outcome = .ok { Configuration.default with server.port := 1 } := by
  refine ⟨?_, ?_, ?_, ?_⟩ <;> decide +kernel

end Loader

end AuthProxy
