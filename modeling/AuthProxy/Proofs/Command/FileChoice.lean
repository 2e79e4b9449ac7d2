import AuthProxy.Command.Run
import AuthProxy.Proofs.Loading.Environment

/-!
# Which file a run loads

Without an option for it, the file of a run is the one that a variable names. The program takes the variable as an argument and
a loader takes it from the environment, each in its own way: `run_eq_ofLoad` says where both come to one load, and what each of
them does where they do not, in whatever orders the loads go through tables. The program rejects an empty name and hands one that is no text to the loader, which cannot open it; a
loader by itself passes over both (`Environment.file?_eq_some_iff`).
-/

namespace AuthProxy

open Text

/-! ## The file of a loader -/

namespace Environment

variable {env : Environment}

/-- A loader takes the names that are texts, and not empty. -/
theorem file?_eq_some_iff {path : Bytes} : env.file? = some path ↔
    env.value? fileVariable = some path ∧ path ≠ [] ∧ (decodeUtf8? path).isSome := by
  rw [file?, Option.filter_eq_some_iff, decide_eq_true_eq]

theorem file?_eq_none_of_stray {path : Bytes} (hvalue : env.value? fileVariable = some path) (h : decodeUtf8? path = none) :
    env.file? = none := by
  rw [Option.eq_none_iff_forall_ne_some]
  intro path' hpath'
  obtain ⟨hvalue', -, htext⟩ := file?_eq_some_iff.1 hpath'
  cases hvalue.symm.trans hvalue'
  rw [h] at htext
  cases htext

/-- The variables stop every load, whatever the files are. -/
def Stops (env : Environment) : Prop :=
  (∃ cause, env.boundPairs = .error cause) ∨ ∃ pairs stop, env.boundPairs = .ok pairs ∧ collectOverrides pairs = .error stop

/-- The file that the variable names is one and the same to the program and to a loader, or no load comes to it. -/
def NamesOneFile (env : Environment) : Prop :=
  ∀ path, env.value? fileVariable = some path → path ≠ [] ∧ ((decodeUtf8? path).isSome ∨ env.Stops)

theorem exists_overrides_of_not_stops (h : ¬ env.Stops) :
    ∃ pairs os, env.boundPairs = .ok pairs ∧ collectOverrides pairs = .ok os := by
  cases hpairs : env.boundPairs with
  | error cause => exact absurd (.inl ⟨cause, hpairs⟩) h
  | ok pairs =>
    cases hos : collectOverrides pairs with
    | error stop => exact absurd (.inr ⟨pairs, stop, hpairs, hos⟩) h
    | ok os => exact ⟨pairs, os, rfl, hos⟩

end Environment

namespace Loader

open Environment

variable {fs : FileSystem} {l : Loader} {env : Environment} {pairs : List (String × String)}

/-- Where the variables stop a load, no file matters. -/
theorem load_eq_of_stops (h : env.Stops) (l l' : Loader) (w : Walk) : l.load fs env w = l'.load fs env w := by
  rcases h with ⟨cause, hpairs⟩ | ⟨pairs, stop, hpairs, hos⟩
  · rw [load, load, hpairs]
  · rw [load, load, hpairs]
    dsimp only
    rw [loadFrom_of_error hos, loadFrom_of_error hos]

/-- What is wrong with a file whose path is no text. -/
def strayPathFault (fs : FileSystem) (path : Bytes) : Fault :=
  let shown := String.ofList (decodeLossy path)
  if (fs.regular? path).isSome then .invalidValue "config file" shown else .fileNotFound shown

theorem fileLayer_of_stray {path : Bytes} (h : decodeUtf8? path = none) (fs : FileSystem) :
    Sources.fileLayer fs path = report (strayPathFault fs path) := by
  rw [Sources.fileLayer, strayPathFault, h]
  cases fs.regular? path <;> rfl

/-- The end of a load that comes to such a file. -/
def stoppedAtStrayPath (fs : FileSystem) (path : Bytes) : LoadResult :=
  .stopped [] (.fault (strayPathFault fs path))

/-- A load stops at a file whose path is no text, if it comes to it. -/
theorem loadFrom_of_stray {os : List Override} (hos : collectOverrides pairs = .ok os) {path : Bytes}
    (h : decodeUtf8? path = none) (w : Walk) :
    Loader.loadFrom fs ⟨some path⟩ pairs w = stoppedAtStrayPath fs path := by
  rw [loadFrom, Sources.ofVariables, hos]
  dsimp only [bind, Except.bind]
  rw [fileLayer_of_stray h]
  rfl

/-- Without a file none is at fault. -/
theorem outcome_ne_strayPathFault {os : List Override} (hos : collectOverrides pairs = .ok os) (hfile : l.file = none)
    (path : Bytes) (w : Walk) : (l.loadFrom fs pairs w).outcome ≠ report (.ofFault (strayPathFault fs path)) := by
  have hfault : ∀ misfit, strayPathFault fs path ≠ .misfit misfit := by
    intro misfit h
    unfold strayPathFault at h
    dsimp only at h
    split at h <;> cases h
  intro h
  obtain ⟨cause, hcause, h⟩ := outcome_eq_fault_iff.1 h
  cases congrArg LoadFault.cause hcause
  rcases h with h | ⟨os', -, h | ⟨_, _, misfit, -, -, h⟩⟩
  · rw [hos] at h
    cases h
  · rw [fileTree_of_none hfile] at h
    cases h
  · exact hfault misfit h

end Loader

namespace Command

open Environment

/-! ## Arguments without an option for the file -/

/-- An argument that is the option for the file, by its letter or by its name; a value may be attached. -/
def isFileOption : List Char → Bool
  | '-' :: 'c' :: _ => true
  | '-' :: '-' :: s => (splitLong s).1 = "config".toList
  | _ => false

theorem askFor_ne_ok {st st' : State} {e : Ending} : st.askFor e ≠ .ok st' := by
  intro h
  obtain ⟨_, -, h⟩ := Outcome.bind_eq_ok_iff.1 h
  cases h

/-- No other long option leads on. -/
theorem longOption_ne_ok {st st' : State} {s : List Char} (h : (splitLong s).1 ≠ "config".toList) :
    longOption st s ≠ .ok st' := by
  intro hoption
  unfold longOption at hoption
  dsimp only at hoption
  rw [if_neg h] at hoption
  split at hoption
  · split at hoption
    · cases hoption
    · exact askFor_ne_ok hoption
  · cases hoption

/-- No other short option leads on. -/
theorem shortOptions_ne_ok {st st' : State} {c : Char} {s : List Char} (h : c ≠ 'c') : shortOptions st (c :: s) ≠ .ok st' := by
  intro hoption
  unfold shortOptions at hoption
  split at hoption
  next heq => exact h (List.cons.inj heq).1
  next => exact askFor_ne_ok hoption
  next => exact askFor_ne_ok hoption
  next => cases hoption

/-- Arguments without an option for the file leave none to be settled. -/
theorem state_of_no_option {arguments : List (List Char)} (hoption : ∀ a ∈ arguments, ¬ isFileOption a) {st : State}
    {action : Option Action} (h : readFrom {} arguments = .ok (st, action)) : st = {} := by
  cases arguments with
  | nil =>
    cases h
    rfl
  | cons name r =>
    have hname : ¬ isFileOption name := hoption name List.mem_cons_self
    unfold readFrom at h
    dsimp only at h
    split at h
    · cases h
    split at h
    · obtain ⟨_, -, h⟩ := Outcome.bind_eq_ok_iff.1 h
      cases h
      rfl
    split at h
    · split at h
      · cases h
        rfl
      · cases h
    · obtain ⟨st', hst', -⟩ := Outcome.bind_eq_ok_iff.1 h
      exact absurd hst' (longOption_ne_ok fun he => hname (decide_eq_true he))
    · obtain ⟨st', hst', -⟩ := Outcome.bind_eq_ok_iff.1 h
      refine absurd hst' (shortOptions_ne_ok ?_)
      rintro rfl
      exact hname rfl
    · split at h
      next hpending => cases hpending
      next => cases h

variable {arguments : List (List Char)} {i : Invocation}

/-- The variable alone decides on the file. -/
theorem read_of_no_option (hoption : ∀ a ∈ arguments, ¬ isFileOption a) (hi : Invocation.read arguments none = .ok i)
    (named : Option Bytes) : Invocation.read arguments named = (Invocation.mk i.action ·) <$> fileOf {} named := by
  obtain ⟨⟨st, action⟩, hfrom, hi⟩ := Outcome.bind_eq_ok_iff.1 hi
  cases state_of_no_option hoption hfrom
  cases hi
  rw [Invocation.read, hfrom]
  dsimp only [bind, Except.bind, State.settle]
  cases fileOf {} named <;> rfl

/-! ## Runs -/

theorem run_of_read_ok {fs : FileSystem} {env : Environment} (h : Invocation.read arguments (env.value? fileVariable) = .ok i)
    (u v : Walk) : run fs env arguments u v =
      (Process.execute fs i.effective (Loader.load fs env ⟨i.file⟩ u) (Loader.load fs env ⟨i.file⟩ v)).report := by
  rw [run, h]

variable {env : Environment}

/-- An empty name is wrong, as a missing value of the option is. -/
theorem read_of_empty_name (hoption : ∀ a ∈ arguments, ¬ isFileOption a) (hi : Invocation.read arguments none = .ok i)
    (hvalue : env.value? fileVariable = some []) :
    Invocation.read arguments (env.value? fileVariable) = .error (.misuse .invalidValue) := by
  rw [read_of_no_option hoption hi, hvalue]
  rfl

/-- Any other name is handed on, a text or not. -/
theorem read_of_name (hoption : ∀ a ∈ arguments, ¬ isFileOption a) (hi : Invocation.read arguments none = .ok i)
    {path : Bytes} (hvalue : env.value? fileVariable = some path) (hpath : path ≠ []) :
    Invocation.read arguments (env.value? fileVariable) = .ok ⟨i.action, some path⟩ := by
  have hempty : path.isEmpty = false := by simpa using hpath
  rw [read_of_no_option hoption hi, hvalue]
  simp only [fileOf, hempty]
  rfl

/-- Where the variable names one file, the program loads what a loader by itself does. -/
theorem exists_read_of_namesOneFile (hoption : ∀ a ∈ arguments, ¬ isFileOption a) (hi : Invocation.read arguments none = .ok i)
    (h : env.NamesOneFile) (fs : FileSystem) : ∃ j, Invocation.read arguments (env.value? fileVariable) = .ok j ∧
      j.effective = i.effective ∧ ∀ w, Loader.load fs env ⟨j.file⟩ w = Loader.load fs env {} w := by
  cases hvalue : env.value? fileVariable with
  | none =>
    rw [read_of_no_option hoption hi]
    exact ⟨⟨i.action, none⟩, rfl, rfl, fun _ => rfl⟩
  | some path =>
    obtain ⟨hpath, htext⟩ := h path hvalue
    rw [← hvalue]
    refine ⟨⟨i.action, some path⟩, read_of_name hoption hi hvalue hpath, rfl, fun w => ?_⟩
    rcases htext with htext | hstops
    · have hfile : env.file? = some path := file?_eq_some_iff.2 ⟨hvalue, hpath, htext⟩
      rw [Loader.load, Loader.load, hfile]
      rfl
    · exact Loader.load_eq_of_stops hstops _ _ w

/-- A name that is no text stops the load of the program at the file; a loader by itself loads without one. -/
theorem loads_of_stray_name {path : Bytes} (hvalue : env.value? fileVariable = some path) (htext : decodeUtf8? path = none)
    (hstops : ¬ env.Stops) (fs : FileSystem) :
    (∀ w, Loader.load fs env ⟨some path⟩ w = Loader.stoppedAtStrayPath fs path) ∧
      ∃ pairs, env.boundPairs = .ok pairs ∧ ∀ w, Loader.load fs env {} w = Loader.loadFrom fs {} pairs w ∧
        (Loader.load fs env {} w).outcome ≠ report (.ofFault (Loader.strayPathFault fs path)) := by
  obtain ⟨pairs, os, hpairs, hos⟩ := exists_overrides_of_not_stops hstops
  have hload : ∀ w, Loader.load fs env {} w = Loader.loadFrom fs {} pairs w := by
    intro w
    rw [Loader.load, hpairs, file?_eq_none_of_stray hvalue htext]
    rfl
  refine ⟨fun w => ?_, pairs, hpairs, fun w => ⟨hload w, ?_⟩⟩
  · rw [Loader.load, hpairs]
    exact Loader.loadFrom_of_stray hos htext w
  · rw [hload]
    exact Loader.outcome_ne_strayPathFault hos rfl path w

/-- **The file of a run.** A run without an option for the file loads as a loader by itself does exactly if the variable names
    one file, and then it is the process of these loads. An empty name ends the run before any load. Over a name that is no text the
    loads of the run stop at the file, where a loader by itself loads the variables alone. All this is so in every order in which the
    loads go through tables. -/
theorem run_eq_ofLoad (fs : FileSystem) (env : Environment) (hoption : ∀ a ∈ arguments, ¬ isFileOption a)
    (hi : Invocation.read arguments none = .ok i) (u v : Walk) :
    ((∃ j, Invocation.read arguments (env.value? fileVariable) = .ok j ∧
      (Loader.load fs env ⟨j.file⟩ v).outcome = (Loader.load fs env {} v).outcome) ↔ env.NamesOneFile) ∧
    (env.NamesOneFile → run fs env arguments u v =
      (Process.execute fs i.effective (Loader.load fs env {} u) (Loader.load fs env {} v)).report) ∧
    (env.value? fileVariable = some [] →
      Invocation.read arguments (env.value? fileVariable) = .error (.misuse .invalidValue)) ∧
    ∀ path, env.value? fileVariable = some path → path ≠ [] → decodeUtf8? path = none → ¬ env.Stops →
      run fs env arguments u v =
        (Process.execute fs i.effective (Loader.stoppedAtStrayPath fs path) (Loader.stoppedAtStrayPath fs path)).report ∧
      ∃ pairs, env.boundPairs = .ok pairs ∧ Loader.load fs env {} v = Loader.loadFrom fs {} pairs v := by
  refine ⟨⟨?_, fun h => ?_⟩, fun h => ?_, read_of_empty_name hoption hi, fun path hvalue hpath htext hstops => ?_⟩
  · rintro ⟨j, hj, hload⟩ path hvalue
    by_cases hpath : path = []
    · subst hpath
      rw [read_of_empty_name hoption hi hvalue] at hj
      cases hj
    · refine ⟨hpath, ?_⟩
      by_contra hne
      obtain ⟨htext, hstops⟩ := not_or.1 hne
      rw [Bool.not_eq_true, Option.isSome_eq_false_iff, Option.isNone_iff_eq_none] at htext
      rw [read_of_name hoption hi hvalue hpath] at hj
      cases hj
      obtain ⟨hstopped, _, -, hloads⟩ := loads_of_stray_name hvalue htext hstops fs
      rw [hstopped] at hload
      exact (hloads v).2 hload.symm
  · obtain ⟨j, hj, -, hload⟩ := exists_read_of_namesOneFile hoption hi h fs
    exact ⟨j, hj, congrArg LoadResult.outcome (hload v)⟩
  · obtain ⟨j, hj, haction, hload⟩ := exists_read_of_namesOneFile hoption hi h fs
    rw [run_of_read_ok hj, haction, hload, hload]
  · obtain ⟨hstopped, pairs, hpairs, hloads⟩ := loads_of_stray_name hvalue htext hstops fs
    rw [run_of_read_ok (read_of_name hoption hi hvalue hpath), hstopped, hstopped]
    exact ⟨rfl, pairs, hpairs, (hloads v).1⟩

/-- A file system with one regular file, which names a cluster. -/
def clusterFile : FileSystem :=
  .single "[upstream]\ncluster = \"prod\"\n".toList

/-- An environment that names this file. -/
def clusterNamed : Environment :=
  [(encodeUtf8 fileVariable.toList, [99])]

/-- A configuration is printed with the file that the variable names. -/
theorem run_eq_ofLoad_clusterFile :
    run clusterFile clusterNamed ["print".toList] {} {} =
      (Process.execute clusterFile .print (Loader.load clusterFile clusterNamed {} {})
        (Loader.load clusterFile clusterNamed {} {})).report ∧
    (Loader.load clusterFile clusterNamed {} {}).outcome =
      .ok { Configuration.default with upstream.cluster := "prod" } := by
  have hread : Invocation.read ["print".toList] none = .ok ⟨some .print, none⟩ := by
    decide +kernel
  have hnames : NamesOneFile clusterNamed := by
    intro path hpath
    have hvalue : value? clusterNamed fileVariable = some [99] := by
      decide +kernel
    cases hvalue.symm.trans hpath
    exact ⟨by decide, .inl (by decide +kernel)⟩
  exact ⟨(run_eq_ofLoad clusterFile _ (by decide) hread {} {}).2.1 hnames, by decide +kernel⟩

/-- A name that is no text is at fault in a run, and passed over by a loader; an empty one ends a run. -/
theorem not_loads_alike :
    (∃ i, Invocation.read [] (value? [(encodeUtf8 fileVariable.toList, [0xFF])] fileVariable) = .ok i ∧
      (Loader.load clusterFile [(encodeUtf8 fileVariable.toList, [0xFF])] ⟨i.file⟩).outcome =
        report (.ofFault (.fileNotFound "\uFFFD")) ∧
      (Loader.load clusterFile [(encodeUtf8 fileVariable.toList, [0xFF])] {}).outcome = .ok .default) ∧
    Invocation.read [] (value? [(encodeUtf8 fileVariable.toList, [])] fileVariable) = .error (.misuse .invalidValue) ∧
      (Loader.load clusterFile [(encodeUtf8 fileVariable.toList, [])] {}).outcome = .ok .default :=
  ⟨⟨⟨none, some [0xFF]⟩, by decide +kernel, by decide +kernel, by decide +kernel⟩, by decide +kernel, by decide +kernel⟩

end Command

end AuthProxy
