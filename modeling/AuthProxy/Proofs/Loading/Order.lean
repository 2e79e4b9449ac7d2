import AuthProxy.Proofs.Loading.Environment
import Mathlib.Data.List.Find
import Mathlib.Data.List.Nodup

/-!
# The order of the environment

The names of variables are distinct, so that each of them is found wherever it stands (`find?_name_of_perm`). What they are set
to, and the file that is named among them, is therefore the same in any order (`lastValue?_of_perm`, `Environment.value?_of_perm`),
and so is what they load (`Loader.loadFrom_of_perm`). But variables that are no texts are reported in the order of the environment
and not in that of the table: `Loader.load_of_perm` says that this is the one thing that depends on the order, and
`Loader.order_of_two_strays` that it does. The order in which tables are gone through is another matter.
-/

namespace AuthProxy

open Text

/-! ## Look-up by name -/

/-- A pair is found by its name wherever it stands, where names are distinct. -/
theorem find?_name_of_perm {α β : Type} [BEq α] [LawfulBEq α] {l l' : List (α × β)} (hnames : (l.map (·.1)).Nodup)
    (h : l.Perm l') (name : α) : l.find? (·.1 == name) = l'.find? (·.1 == name) := by
  refine List.find?_eq_find?_of_perm h ?_
  rintro v ⟨hv, hname⟩ w ⟨hw, hname'⟩
  apply List.inj_on_of_nodup_map hnames hv hw
  rw [eq_of_beq hname, eq_of_beq hname']

theorem lookup_eq_map_find? {α β : Type} [BEq α] [LawfulBEq α] (l : List (α × β)) (name : α) :
    l.lookup name = (l.find? (·.1 == name)).map (·.2) := by
  induction l with
  | nil => rfl
  | cons v l ih =>
    rw [List.lookup_cons, List.find?_cons, ih, BEq.comm]
    cases v.1 == name <;> rfl

variable {pairs pairs' : List (String × String)} {env env' : Environment}

/-- Variables are set to the same in any order. -/
theorem lastValue?_of_perm (hkeys : (pairs.map (·.1)).Nodup) (h : pairs.Perm pairs') (key : String) :
    lastValue? pairs key = lastValue? pairs' key := by
  have hreverse : pairs.reverse.Perm pairs'.reverse := (List.reverse_perm _).trans (h.trans (List.reverse_perm _).symm)
  have hkeys' : (pairs.reverse.map (·.1)).Nodup := by
    rwa [List.map_reverse, List.nodup_reverse]
  rw [lastValue?, lastValue?, find?_name_of_perm hkeys' hreverse]

namespace Environment

theorem value?_of_perm (hnames : (env.map (·.1)).Nodup) (h : env.Perm env') (key : String) :
    env.value? key = env'.value? key := by
  rw [value?, value?, lookup_eq_map_find?, lookup_eq_map_find?, find?_name_of_perm hnames h]

/-- A variable keeps its name as a text. -/
theorem name_of_pair? {v : Bytes × Bytes} {p : String × String} (h : pair? v = some p) : v.1 = encodeUtf8 p.1.toList := by
  obtain ⟨key, hkey, h⟩ := Option.bind_eq_some_iff.1 h
  obtain ⟨text, -, h⟩ := Option.bind_eq_some_iff.1 h
  cases h
  exact (boundKey?_eq_some_iff.1 hkey).2

/-- Variables with distinct names are pairs with distinct keys. -/
theorem nodup_filterMap_pair? (hnames : (env.map (·.1)).Nodup) : ((env.filterMap pair?).map (·.1)).Nodup := by
  have hsub : ((env.filterMap pair?).map fun p => encodeUtf8 p.1.toList).Sublist (env.map (·.1)) := by
    clear hnames
    induction env with
    | nil => exact .slnil
    | cons v env ih =>
      rw [List.filterMap_cons]
      cases h : pair? v with
      | none => exact ih.cons v.1
      | some p =>
        rw [List.map_cons, List.map_cons, name_of_pair? h]
        exact ih.cons_cons _
  refine List.Nodup.of_map (fun key => encodeUtf8 key.toList) ?_
  rw [List.map_map]
  exact hnames.sublist hsub

/-- Whether any variable is stray does not depend on the order. -/
theorem firstStray?_eq_none_of_perm (h : env.Perm env') (hnone : env.firstStray? = none) : env'.firstStray? = none := by
  rw [firstStray?, List.find?_eq_none] at hnone ⊢
  exact fun v hv => hnone v (h.mem_iff.2 hv)

end Environment

/-! ## Loads -/

namespace Loader

open Environment

variable {fs : FileSystem} {l : Loader} {w : Walk}

/-- A load is determined by the overrides that its variables ask for. -/
theorem loadFrom_congr (h : collectOverrides pairs = collectOverrides pairs') : l.loadFrom fs pairs w = l.loadFrom fs pairs' w := by
  rw [loadFrom, loadFrom, Sources.ofVariables, Sources.ofVariables, h]

/-- **Variables that are texts** load the same in any order. -/
theorem loadFrom_of_perm (hkeys : (pairs.map (·.1)).Nodup) (h : pairs.Perm pairs') :
    l.loadFrom fs pairs w = l.loadFrom fs pairs' w :=
  loadFrom_congr (overridesOf_congr fun b _ => lastValue?_of_perm hkeys h b.key)

theorem load_of_no_stray (h : env.firstStray? = none) :
    l.load fs env w = Loader.loadFrom fs ⟨l.file <|> env.file?⟩ (env.filterMap pair?) w := by
  rw [load, boundPairs_eq_ok_iff.2 ⟨h, rfl⟩]

/-- Without stray variables the order of the environment does not matter. -/
theorem load_eq_of_no_stray (hnames : (env.map (·.1)).Nodup) (h : env.Perm env') (hnone : env.firstStray? = none) :
    l.load fs env w = l.load fs env' w := by
  rw [load_of_no_stray hnone, load_of_no_stray (firstStray?_eq_none_of_perm h hnone), file?, file?, value?_of_perm hnames h]
  exact loadFrom_of_perm (nodup_filterMap_pair? hnames) (h.filterMap pair?)

theorem key_eq_of_stopped {key key' : String}
    (h : LoadResult.stopped [] (.fault (strayFault key)) = LoadResult.stopped [] (.fault (strayFault key'))) : key = key' := by
  have houtcome := congrArg LoadResult.outcome h
  obtain ⟨hcause, -⟩ := LoadFault.mk.inj (Stop.fault.inj (Except.error.inj houtcome))
  exact (Fault.unreadableVariable.inj hcause).1

/-- Without stray variables what cannot be read of a variable is settled by the variables, whatever the file is. -/
theorem outcome_eq_unreadable_iff {key reason : String} :
    (l.loadFrom fs pairs w).outcome = report (.ofFault (.unreadableVariable key reason)) ↔
      collectOverrides pairs = report (.unreadableVariable key reason) := by
  refine ⟨fun h => ?_, outcome_of_fault⟩
  obtain ⟨cause, hcause, h⟩ := outcome_eq_fault_iff.1 h
  cases congrArg LoadFault.cause hcause
  rcases h with h | ⟨os, -, h | ⟨base, file, misfit, -, -, h⟩⟩
  · exact h
  · rcases fault_of_fileTree h with ⟨_, h⟩ | ⟨_, _, h⟩ | ⟨_, h⟩ <;> cases h
  · cases h

/-- A variable that cannot be read is named in any order of the tables. -/
theorem outcome_load_eq_unreadable_iff (v w : Walk) {key reason : String} :
    (l.load fs env v).outcome = report (.ofFault (.unreadableVariable key reason)) ↔
      (l.load fs env w).outcome = report (.ofFault (.unreadableVariable key reason)) := by
  rw [load, load]
  cases env.boundPairs with
  | error cause => exact Iff.rfl
  | ok pairs =>
    dsimp only
    rw [outcome_eq_unreadable_iff, outcome_eq_unreadable_iff]

/-- In one order of the tables, another order of the environment makes no difference but over stray variables. -/
theorem load_of_perm_of_walk (hnames : (env.map (·.1)).Nodup) (h : env.Perm env') (fs : FileSystem) (l : Loader) (w : Walk) :
    (l.load fs env w = l.load fs env' w ↔ env.firstStray? = env'.firstStray?) ∧
    (∀ c, (l.load fs env w).outcome = .ok c ↔ (l.load fs env' w).outcome = .ok c) ∧
    (l.load fs env w ≠ l.load fs env' w → ∃ b ∈ Binding.table, ∃ b' ∈ Binding.table, b ≠ b' ∧
      l.load fs env w = .stopped [] (.fault (strayFault b.key)) ∧
      l.load fs env' w = .stopped [] (.fault (strayFault b'.key))) := by
  cases hfirst : env.firstStray? with
  | none =>
    have hsame : l.load fs env w = l.load fs env' w := load_eq_of_no_stray hnames h hfirst
    have hfirst' : env'.firstStray? = none := firstStray?_eq_none_of_perm h hfirst
    rw [hsame, hfirst']
    exact ⟨iff_of_true rfl rfl, fun c => Iff.rfl, fun hne => absurd rfl hne⟩
  | some v =>
    cases hfirst' : env'.firstStray? with
    | none =>
      rw [firstStray?_eq_none_of_perm h.symm hfirst'] at hfirst
      cases hfirst
    | some v' =>
      obtain ⟨b, hb, hname, hload⟩ := exists_load_of_firstStray? hfirst
      obtain ⟨b', hb', hname', hload'⟩ := exists_load_of_firstStray? hfirst'
      have hv : v ∈ env := List.mem_of_find?_eq_some hfirst
      have hv' : v' ∈ env := h.mem_iff.2 (List.mem_of_find?_eq_some hfirst')
      rw [hload, hload']
      refine ⟨⟨fun hsame => ?_, fun hsame => ?_⟩, fun c => ?_, fun hne => ?_⟩
      · apply congrArg some
        apply List.inj_on_of_nodup_map hnames hv hv'
        rw [hname, hname', key_eq_of_stopped hsame]
      · cases hsame
        rw [String.toList_inj.1 (encodeUtf8_injective (hname.symm.trans hname'))]
      · exact iff_of_false (fun h => (nomatch h)) (fun h => (nomatch h))
      · exact ⟨b, hb, b', hb', fun hbinding => hne (by rw [hbinding]), rfl, rfl⟩

/-- **The order of the environment** changes nothing about a load but which of several stray variables it is stopped by: the
    first one of the environment. In particular the same configurations are loaded. All this is said of loads that go through their
    tables in one order. A variable that cannot be read is named in any of them, and over a file whose keys are apart another one
    makes no difference but over which of several fields that cannot be read is named. -/
theorem load_of_perm (hnames : (env.map (·.1)).Nodup) (h : env.Perm env') (fs : FileSystem) (l : Loader) :
    (∀ w, l.load fs env w = l.load fs env' w ↔ env.firstStray? = env'.firstStray?) ∧
    (∀ w c, (l.load fs env w).outcome = .ok c ↔ (l.load fs env' w).outcome = .ok c) ∧
    (∀ w, l.load fs env w ≠ l.load fs env' w → ∃ b ∈ Binding.table, ∃ b' ∈ Binding.table, b ≠ b' ∧
      l.load fs env w = .stopped [] (.fault (strayFault b.key)) ∧
      l.load fs env' w = .stopped [] (.fault (strayFault b'.key))) ∧
    (env.firstStray? = env'.firstStray? → ∀ v w,
      (∀ key reason, (l.load fs env v).outcome = report (.ofFault (.unreadableVariable key reason)) ↔
        (l.load fs env' w).outcome = report (.ofFault (.unreadableVariable key reason))) ∧
      (Loader.Apart fs ⟨l.file <|> env.file?⟩ → l.load fs env v = l.load fs env' w ∨ NameTwoFields fs l env v w)) := by
  have hwalk := load_of_perm_of_walk hnames h fs l
  refine ⟨fun w => (hwalk w).1, fun w => (hwalk w).2.1, fun w => (hwalk w).2.2, fun hfirst v w => ?_⟩
  rw [← (hwalk w).1.2 hfirst]
  exact ⟨fun key reason => outcome_load_eq_unreadable_iff v w, fun hl => load_eq_or_nameTwoFields hl v w⟩

/-- One stray variable stops a load wherever it stands, and whatever else is wrong. -/
theorem load_of_perm_one_stray :
    load .blank [(encodeUtf8 "SERVER_PORT".toList, [0x78]), ([0xFF], []), (encodeUtf8 "CLIENT_ID".toList, [0xFF])] {} {} =
      load .blank [(encodeUtf8 "CLIENT_ID".toList, [0xFF]), (encodeUtf8 "SERVER_PORT".toList, [0x78]), ([0xFF], [])] {} {} := by
  apply ((load_of_perm (by decide +kernel) (by decide +kernel) .blank {}).1 {}).2
  decide +kernel

/-- Of two stray variables the first one is named, so that the fault depends on the order that the variables come in. -/
theorem order_of_two_strays :
    let secret : Bytes × Bytes := (encodeUtf8 "CLIENT_SECRET".toList, [0xFF])
    let id : Bytes × Bytes := (encodeUtf8 "CLIENT_ID".toList, [0xFF])
    ([secret, id].map (·.1)).Nodup ∧ [secret, id].Perm [id, secret] ∧
      (load .blank [secret, id] {}).outcome =
        report (.ofFault (.unreadableVariable "CLIENT_SECRET" "value is not valid UTF-8")) ∧
      (load .blank [id, secret] {}).outcome =
        report (.ofFault (.unreadableVariable "CLIENT_ID" "value is not valid UTF-8")) := by
  refine ⟨by decide +kernel, .swap _ _ _, ?_, ?_⟩
  · exact outcome_load_eq_strayFault_iff.2 ⟨[0xFF], by decide +kernel⟩
  · exact outcome_load_eq_strayFault_iff.2 ⟨[0xFF], by decide +kernel⟩

end Loader

end AuthProxy
