import AuthProxy.Proofs.Command.FileChoice
import AuthProxy.Proofs.Command.Process
import AuthProxy.Proofs.Log.Cuts

/-!
# How a run ends

A run is accounted for by the ends of its two loads (`Report.AccountsFor`). The second decides: the run succeeds if this load does and
the configuration is valid, where it is to be checked, and a load that fails is told with all its causes. The first says how to log;
if it fails too, the failure of the second is logged once, whatever the settings are. Only a level that cannot be read comes in
between: over one the process crashes. Over a file whose keys are apart both loads end alike, or over fields that cannot be read, so
that one of them accounts for the run (`run_accountsFor`).
-/

namespace AuthProxy

open Log

/-- A log can be installed: the level can be read, where there is to be a log. -/
def Logging.Installs (settings : Logging) : Prop :=
  settings.enable = true → Filter.ofText settings.level ≠ .error .crash

namespace Log

variable {settings : Logging}

theorem passed_append (filter : Option Filter) (events events' : List Event) :
    passed filter (events ++ events') = passed filter events ++ passed filter events' := by
  cases filter with
  | none => rfl
  | some f => exact List.filter_append events events'

/-- Without a crash there is a filter, or none where there is to be no log. -/
theorem exists_install?_iff : (∃ filter, install? settings = .ok filter) ↔ settings.Installs := by
  rw [install?, Logging.Installs]
  cases settings.enable with
  | false => exact ⟨fun _ h => (nomatch h), fun _ => ⟨none, rfl⟩⟩
  | true =>
    rw [if_pos rfl]
    rcases Filter.ofText settings.level with (e | _) | f
    · exact e.elim
    · exact ⟨fun ⟨_, h⟩ => (nomatch h), fun h => absurd rfl (h rfl)⟩
    · exact ⟨fun _ _ h => (nomatch h), fun _ => ⟨some f, rfl⟩⟩

theorem install?_of_disabled (h : settings.enable = false) : install? settings = .ok none := by
  rw [install?, h]
  rfl

/-- By default events are logged from `info` on. -/
theorem install?_default : install? Configuration.default.logging = .ok (some (.ofLevel .info)) := by
  decide +kernel

end Log

/-! ## Loads that fail -/

namespace Loader

open Text

variable {fs : FileSystem} {env : Environment} {l : Loader} {w : Walk} {f : LoadFault}

/-- A load logs the overrides it comes to; then it stops, or it logs that it gives a configuration. -/
theorem load_cases (fs : FileSystem) (env : Environment) (l : Loader) (w : Walk) :
    (∃ (os : List Override) (stop : Stop Fault), l.load fs env w = .stopped (os.map overrideEvent) stop) ∨
      ∃ (os : List Override) (file : Option Bytes) (c : Configuration),
        l.load fs env w = ⟨os.map overrideEvent ++ [.loaded file c.server.port], .ok c⟩ := by
  unfold load
  cases env.boundPairs with
  | error cause => exact .inl ⟨[], .fault cause, rfl⟩
  | ok pairs =>
    dsimp only
    unfold loadFrom
    cases Sources.ofVariables fs (l.file <|> env.file?) pairs with
    | error stop => exact .inl ⟨[], stop, rfl⟩
    | ok sources =>
      dsimp only
      cases sources.read fs w with
      | error stop => exact .inl ⟨sources.overrides, stop, rfl⟩
      | ok c => exact .inr ⟨sources.overrides, _, c, rfl⟩

/-- A load that fails has logged overrides and then, once, why it failed. It falls back on the defaults. -/
theorem events_of_fault (h : (l.load fs env w).outcome = .error (.fault f)) : f.fallback = .default ∧
    ∃ os : List Override, (l.load fs env w).events = os.map overrideEvent ++ [.loadFailed f.cause] := by
  rcases load_cases fs env l w with ⟨os, stop, hload⟩ | ⟨os, file, c, hload⟩
  · rw [hload] at h ⊢
    cases stop with
    | fault cause =>
      cases h
      exact ⟨rfl, os, rfl⟩
    | crash => cases h
  · rw [hload] at h
    cases h

/-- By the settings that it falls back on, the failure alone is logged. -/
theorem passed_of_fault (h : (l.load fs env w).outcome = .error (.fault f)) :
    passed (some (.ofLevel .info)) (l.load fs env w).events = [.loadFailed f.cause] := by
  obtain ⟨-, os, hevents⟩ := events_of_fault h
  have happlied : passed (some (.ofLevel .info)) (os.map overrideEvent) = [] := by
    refine List.filter_eq_nil_iff.2 fun e he => ?_
    obtain ⟨o, -, rfl⟩ := List.mem_map.1 he
    show ¬ Level.info.includes .debug = true
    decide
  rw [hevents, passed_append, happlied]
  rfl

end Loader

namespace Command

open Environment Text

variable {fs : FileSystem} {env : Environment} {i : Invocation} {first second : Outcome LoadFault Configuration} {u v : Walk}

/-! ## What is left behind -/

/-- A first load leaves settings by which a log can be installed; the default settings, if it fails, are such. -/
def CanLog (first : Outcome LoadFault Configuration) : Prop :=
  first ≠ .error .crash ∧ ∀ c, first = .ok c → c.logging.Installs

/-- A first load leaves settings by which there is to be no log. -/
def IsMuted (first : Outcome LoadFault Configuration) : Prop :=
  ∃ c : Configuration, first = .ok c ∧ c.logging.enable = false

theorem canLog_fault (f : LoadFault) : CanLog (.error (.fault f)) := by
  refine ⟨nofun, fun c hc => ?_⟩
  cases hc

theorem canLog_ok_iff {c : Configuration} : CanLog (.ok c) ↔ c.logging.Installs := by
  constructor
  · exact fun h => h.2 c rfl
  · intro h
    refine ⟨nofun, fun d hd => ?_⟩
    cases hd
    exact h

/-- Settings that want no log ask for nothing. -/
theorem IsMuted.canLog (h : IsMuted first) : CanLog first := by
  obtain ⟨c, rfl, hoff⟩ := h
  refine canLog_ok_iff.2 ?_
  rw [Logging.Installs, hoff]
  exact nofun

/-- What is printed about a configuration. -/
def Action.output (c : Configuration) : Action → String
  | .check => summary c ++ "\n"
  | .print => render c

/-- The failure of a run that loads, and does what it is asked for with the configuration. -/
inductive Failure.Of (fs : FileSystem) (action : Action) (outcome : Outcome LoadFault Configuration) : Failure → Prop where
  | load {f : LoadFault} (h : outcome = .error (.fault f)) : Of fs action outcome (.load f)
  | invalid {c : Configuration} (h : outcome = .ok c) (haction : action = .check) {cause : Fault}
      (hcause : c.check fs = .error cause) : Of fs action outcome (.invalid cause)

/-- What is logged by the settings that a first load leaves: nothing if they want no log. -/
def Logged (first : Outcome LoadFault Configuration) (log : List String) : Prop :=
  IsMuted first → log = []

/-- How a run ends, by the ends of its two loads and by what is to be done: with which report. -/
inductive Report.Ends (fs : FileSystem) (action : Action) (first : Outcome LoadFault Configuration) :
    Outcome LoadFault Configuration → Report → Prop where
  | success {c : Configuration} {log : List String} (hcan : CanLog first) (hvalid : action = .check → c.check fs = .ok ())
      (hlog : Logged first log) : Ends fs action first (.ok c) ⟨0, action.output c, textOfLines log⟩
  | invalid {c : Configuration} {log : List String} {cause : Fault} (hcan : CanLog first) (haction : action = .check)
      (hcause : c.check fs = .error cause) (hlog : Logged first log) :
      Ends fs action first (.ok c) ⟨1, "", textOfLines (log ++ (Failure.invalid cause).lines)⟩
  | unloaded {f : LoadFault} {log : List String} (hcan : CanLog first) (hlog : Logged first log)
      (honce : ∀ g, first = .error (.fault g) → log = [(Event.loadFailed f.cause).line]) :
      Ends fs action first (.error (.fault f)) ⟨1, "", textOfLines (log ++ (Failure.load f).lines)⟩
  | crashedLoad {log : List String} (hcan : CanLog first) (hlog : Logged first log) :
      Ends fs action first (.error .crash) ⟨crashCode, "", textOfLines log⟩
  | crashedLog {second : Outcome LoadFault Configuration} (hcan : ¬ CanLog first) :
      Ends fs action first second ⟨crashCode, "", ""⟩

/-- What is logged by the filter that a configuration asks for. -/
theorem logged_passed {c : Configuration} {filter : Option Filter} (hinstall : install? c.logging = .ok filter)
    (events : List Event) : Logged (.ok c) ((passed filter events).map Event.line) := by
  rintro ⟨d, hd, hoff⟩
  cases hd
  rw [install?_of_disabled hoff] at hinstall
  cases hinstall
  rfl

/-- A process with a log goes on to one of its ends. -/
theorem Report.ends_of_install {first second : LoadResult} {x : Except LoadFault Configuration} {filter : Option Filter}
    (hx : first.outcome = x.mapError .fault) (hinstall : install? (Process.settingsOf x) = .ok filter)
    (hcan : CanLog first.outcome) (hlogged : ∀ events, Logged first.outcome ((passed filter events).map Event.line))
    (honce : ∀ g f, first.outcome = .error (.fault g) → second.outcome = .error (.fault f) →
      passed filter second.events = [.loadFailed f.cause]) (action : Action) :
    Ends fs action first.outcome second.outcome (Process.execute fs action first second).report := by
  rw [Process.report_execute hx hinstall]
  rcases hsecond : second.outcome with (f | _) | c
  · refine .unloaded hcan (hlogged _) fun g hg => ?_
    rw [honce g f hg hsecond, List.map_singleton]
  · exact .crashedLoad hcan (hlogged _)
  · cases action with
    | print =>
      have hvalid : Action.print = .check → c.check fs = .ok () := nofun
      exact .success hcan hvalid (hlogged _)
    | check =>
      cases hcheck : c.check fs with
      | error cause =>
        have hfailure : check fs c = .error (.invalid cause) := by
          rw [check, hcheck]
        dsimp only
        rw [hfailure]
        exact .invalid hcan rfl hcheck (hlogged _)
      | ok u =>
        have hsummary : check fs c = .ok (summary c) := by
          rw [check, hcheck]
        dsimp only
        rw [hsummary, ← List.map_append, ← passed_append]
        exact .success hcan (fun _ => hcheck) (hlogged _)

/-- **A process ends** by its two loads, whatever the ends of the loads are. -/
theorem Report.ends_execute (fs : FileSystem) (env : Environment) (l : Loader) (action : Action) (u v : Walk) :
    Ends fs action (l.load fs env u).outcome (l.load fs env v).outcome
      (Process.execute fs action (l.load fs env u) (l.load fs env v)).report := by
  rcases hfirst : (l.load fs env u).outcome with (f | _) | c
  · obtain ⟨hfallback, -⟩ := Loader.events_of_fault hfirst
    have hinstall : install? (Process.settingsOf (.error f)) = .ok (some (.ofLevel .info)) := by
      rw [Process.settingsOf, hfallback, install?_default]
    rw [← hfirst]
    refine ends_of_install (x := .error f) hfirst hinstall ?_ ?_ (fun _ _ _ hsecond => Loader.passed_of_fault hsecond) action
    · rw [hfirst]
      exact canLog_fault f
    · rintro events ⟨c, hc, -⟩
      rw [hfirst] at hc
      cases hc
  · rw [Process.report_execute_of_crash hfirst]
    exact .crashedLog fun h => h.1 rfl
  · cases hinstall : install? c.logging with
    | error stop =>
      rw [Process.report_execute_of_error (x := .ok c) hfirst hinstall]
      refine .crashedLog fun h => ?_
      obtain ⟨filter, hfilter⟩ := exists_install?_iff.2 (canLog_ok_iff.1 h)
      rw [hinstall] at hfilter
      cases hfilter
    | ok filter =>
      rw [← hfirst]
      refine ends_of_install (x := .ok c) hfirst hinstall ?_ ?_ ?_ action
      · rw [hfirst]
        exact canLog_ok_iff.2 (exists_install?_iff.1 ⟨filter, hinstall⟩)
      · rw [hfirst]
        exact logged_passed hinstall
      · intro g f hg
        rw [hfirst] at hg
        cases hg

/-- What a run leaves behind, by the ends of its two loads and by what is to be done with the configuration. -/
structure Report.AccountsFor (fs : FileSystem) (action : Action) (first second : Outcome LoadFault Configuration)
    (r : Report) : Prop where
  /-- It succeeds if there are settings to log by and a configuration, which is valid where it is to be checked. -/
  success : r.exitCode = 0 ↔ CanLog first ∧ ∃ c, second = .ok c ∧ (action = .check → c.check fs = .ok ())
  /-- Then the summary or the configuration with its secrets hidden is printed. -/
  output : r.exitCode = 0 → ∃ c, second = .ok c ∧ r.output = action.output c
  /-- It fails with nothing printed, and the failure with all its causes at the end of the errors. -/
  failure : r.exitCode = 1 → r.output = "" ∧
    ∃ f log, Failure.Of fs action second f ∧ r.errors = textOfLines (log ++ f.lines)
  /-- If both loads fail, it fails, and the failure is logged once, with no other event. -/
  logged : ∀ g f, first = .error (.fault g) → second = .error (.fault f) →
    r.exitCode = 1 ∧ r.errors = textOfLines ((Event.loadFailed f.cause).line :: (Failure.load f).lines)
  /-- Where there is to be no log, nothing is logged. -/
  silent : IsMuted first → r.errors = "" ∧ r.exitCode ≠ 1 ∨
    ∃ f, r.exitCode = 1 ∧ Failure.Of fs action second f ∧ r.errors = textOfLines f.lines
  /-- It crashes with a load, or over a level that cannot be read. -/
  crash : r.exitCode = crashCode ↔ ¬ CanLog first ∨ second = .error .crash
  /-- It ends in no other way. -/
  ends : r.exitCode = 0 ∨ r.exitCode = 1 ∨ r.exitCode = crashCode

namespace Report.Ends

variable {action : Action} {r : Report}

/-- The codes of success, of a failure and of a crash are apart from each other. -/
theorem codes_apart : (1 : UInt32) ≠ 0 ∧ crashCode ≠ 0 ∧ crashCode ≠ 1 := by
  decide

theorem exitCode_eq_zero_iff (h : r.Ends fs action first second) :
    r.exitCode = 0 ↔ CanLog first ∧ ∃ c, second = .ok c ∧ (action = .check → c.check fs = .ok ()) := by
  cases h with
  | success hcan hvalid => exact iff_of_true rfl ⟨hcan, _, rfl, hvalid⟩
  | invalid _ haction hcause =>
    refine iff_of_false codes_apart.1 ?_
    rintro ⟨-, c, hc, hvalid⟩
    cases hc
    rw [hvalid haction] at hcause
    cases hcause
  | unloaded =>
    refine iff_of_false codes_apart.1 ?_
    rintro ⟨-, c, hc, -⟩
    cases hc
  | crashedLoad =>
    refine iff_of_false codes_apart.2.1 ?_
    rintro ⟨-, c, hc, -⟩
    cases hc
  | crashedLog hcan => exact iff_of_false codes_apart.2.1 fun h => hcan h.1

theorem exitCode_eq_crashCode_iff (h : r.Ends fs action first second) :
    r.exitCode = crashCode ↔ ¬ CanLog first ∨ second = .error .crash := by
  cases h with
  | success hcan => exact iff_of_false codes_apart.2.1.symm (not_or.2 ⟨not_not.2 hcan, nofun⟩)
  | invalid hcan => exact iff_of_false codes_apart.2.2.symm (not_or.2 ⟨not_not.2 hcan, nofun⟩)
  | unloaded hcan => exact iff_of_false codes_apart.2.2.symm (not_or.2 ⟨not_not.2 hcan, nofun⟩)
  | crashedLoad => exact iff_of_true rfl (.inr rfl)
  | crashedLog hcan => exact iff_of_true rfl (.inl hcan)

/-- Without a log, nothing but the failure is written to the errors. -/
theorem errors_of_isMuted (h : r.Ends fs action first second) (hmuted : IsMuted first) : r.errors = "" ∧ r.exitCode ≠ 1 ∨
    ∃ f, r.exitCode = 1 ∧ Failure.Of fs action second f ∧ r.errors = textOfLines f.lines := by
  have hempty : textOfLines [] = "" := rfl
  cases h with
  | success _ _ hlog =>
    rw [hlog hmuted]
    exact .inl ⟨hempty, codes_apart.1.symm⟩
  | invalid _ haction hcause hlog =>
    refine .inr ⟨_, rfl, .invalid rfl haction hcause, ?_⟩
    rw [hlog hmuted, List.nil_append]
  | unloaded _ hlog =>
    refine .inr ⟨_, rfl, .load rfl, ?_⟩
    rw [hlog hmuted, List.nil_append]
  | crashedLoad _ hlog =>
    rw [hlog hmuted]
    exact .inl ⟨hempty, codes_apart.2.2⟩
  | crashedLog hcan => exact absurd hmuted.canLog hcan

theorem accountsFor (h : r.Ends fs action first second) : r.AccountsFor fs action first second where
  success := h.exitCode_eq_zero_iff
  output hcode := by
    cases h with
    | success => exact ⟨_, rfl, rfl⟩
    | invalid | unloaded => exact absurd hcode codes_apart.1
    | crashedLog | crashedLoad => exact absurd hcode codes_apart.2.1
  failure hcode := by
    cases h with
    | success => exact absurd hcode codes_apart.1.symm
    | invalid _ haction hcause => exact ⟨rfl, _, _, .invalid rfl haction hcause, rfl⟩
    | unloaded => exact ⟨rfl, _, _, .load rfl, rfl⟩
    | crashedLog | crashedLoad => exact absurd hcode codes_apart.2.2
  logged := by
    rintro g f rfl rfl
    cases h with
    | unloaded _ _ honce =>
      refine ⟨rfl, ?_⟩
      rw [honce g rfl, List.singleton_append]
    | crashedLog hcan => exact absurd (canLog_fault g) hcan
  silent := h.errors_of_isMuted
  crash := h.exitCode_eq_crashCode_iff
  ends := by
    cases h with
    | success => exact .inl rfl
    | invalid | unloaded => exact .inr (.inl rfl)
    | crashedLog | crashedLoad => exact .inr (.inr rfl)

end Report.Ends

/-- If both loads fail, the run is accounted for by the second alone. -/
theorem Report.AccountsFor.of_unloaded {action : Action} {r : Report} {g : LoadFault}
    (h : r.AccountsFor fs action (.error (.fault g)) second) (hsecond : ∀ c, second ≠ .ok c) :
    r.AccountsFor fs action second second where
  success := by
    rw [h.success]
    exact iff_of_false (fun ⟨_, c, hc, _⟩ => hsecond c hc) fun ⟨_, c, hc, _⟩ => hsecond c hc
  output := h.output
  failure := h.failure
  logged _ f _ hf := h.logged g f rfl hf
  silent := fun ⟨c, hc, _⟩ => absurd hc (hsecond c)
  crash := by
    have hcan : ¬ CanLog second ↔ second = .error .crash :=
      ⟨fun hnot => by_contra fun hcrash => hnot ⟨hcrash, fun c hc => absurd hc (hsecond c)⟩, fun hcrash h => h.1 hcrash⟩
    rw [h.crash, hcan, or_self, or_iff_right (not_not.2 (canLog_fault g))]
  ends := h.ends

variable {arguments : List (List Char)}

/-- **The end of a run** is accounted for by its two loads: it succeeds with the summary or the configuration printed, fails with all
    causes told and a failed load logged once, or crashes. Over a file whose keys are apart the second load accounts for it alone, in
    whatever orders the loads go through tables, unless the first crashes. It does not crash over settings whose level has no directive
    that begins with a blank and holds a character above ASCII. -/
theorem run_accountsFor (fs : FileSystem) (hi : Invocation.read arguments (env.value? fileVariable) = .ok i) (u v : Walk) :
    (run fs env arguments u v).AccountsFor fs i.effective (Loader.load fs env ⟨i.file⟩ u).outcome
      (Loader.load fs env ⟨i.file⟩ v).outcome ∧
    (Loader.Apart fs ⟨i.file <|> env.file?⟩ → (Loader.load fs env ⟨i.file⟩ u).outcome ≠ .error .crash →
      (run fs env arguments u v).AccountsFor fs i.effective (Loader.load fs env ⟨i.file⟩ v).outcome
        (Loader.load fs env ⟨i.file⟩ v).outcome) ∧
    run fs env arguments u v =
      (Process.execute fs i.effective (Loader.load fs env ⟨i.file⟩ u) (Loader.load fs env ⟨i.file⟩ v)).report ∧
    ∀ settings : Logging, ¬ settings.Installs → settings.enable = true ∧
      ∃ p ∈ splitAt ',' (lowerCase (trim settings.level.toList)), trimStart p ≠ p ∧ ∃ c ∈ p, 128 ≤ c.toNat := by
  rw [run_of_read_ok hi]
  have haccounts := (Report.ends_execute fs env ⟨i.file⟩ i.effective u v).accountsFor
  refine ⟨haccounts, fun hapart hcrash => ?_, rfl, fun settings h => ?_⟩
  · rcases Loader.load_eq_or_nameTwoFields (l := ⟨i.file⟩) hapart u v with heq | ⟨_, _, _, stop, stop', -, -, -, -, hu, hv⟩
    · rwa [heq] at haccounts ⊢
    · rw [hu] at haccounts hcrash
      cases stop with
      | crash => exact absurd rfl hcrash
      | fault misfit =>
        refine haccounts.of_unloaded fun c hc => ?_
        rw [hv] at hc
        cases hc
  · obtain ⟨hon, hcrash⟩ := Classical.not_imp.1 h
    exact ⟨hon, Filter.exists_piece_of_crash (not_not.1 hcrash)⟩

/-- An environment that wants no log, and has a variable that is no duration. -/
def muted : Environment :=
  [(encodeUtf8 "LOGGING_ENABLE".toList, encodeUtf8 "false".toList), (encodeUtf8 "LOGGING_LEVEL".toList, encodeUtf8 "off".toList),
   (encodeUtf8 "SERVER_TIMEOUT_READ".toList, encodeUtf8 "soon".toList)]

/-- What is wrong with the last of them. -/
def soonFault : Fault :=
  .unreadableVariable "SERVER_TIMEOUT_READ" "invalid duration 'soon': expected number at 0 (expected e.g. 60s, 3h)"

/-- The failure is logged all the same. -/
theorem run_accountsFor_muted : (run clusterFile muted [] {} {}).exitCode = 1 ∧ (run clusterFile muted [] {} {}).output = "" ∧
    (run clusterFile muted [] {} {}).errors =
      textOfLines ((Event.loadFailed soonFault).line :: (Failure.load (.ofFault soonFault)).lines) := by
  have hread : Invocation.read [] (muted.value? fileVariable) = .ok ⟨none, none⟩ := by
    decide +kernel
  have hload : (Loader.load clusterFile muted ⟨none⟩ {}).outcome = .error (.fault (.ofFault soonFault)) := by
    decide +kernel
  obtain ⟨hrun, -⟩ := run_accountsFor clusterFile hread {} {}
  obtain ⟨hcode, herrors⟩ := hrun.logged (.ofFault soonFault) (.ofFault soonFault) hload hload
  exact ⟨hcode, (hrun.failure hcode).1, herrors⟩

/-- An environment with a level whose second directive begins with a no-break space. -/
def blankDirective : Environment :=
  [(encodeUtf8 "LOGGING_LEVEL".toList, encodeUtf8 "info,\u00a0a=debug".toList)]

/-- It is loaded without a fault, and yet the run that is to print it crashes. -/
theorem run_blankDirective :
    Invocation.read ["print".toList] (blankDirective.value? fileVariable) = .ok ⟨some .print, none⟩ ∧
    (Loader.load clusterFile blankDirective {} {}).outcome =
      .ok { Configuration.default with logging.level := "info,\u00a0a=debug" } ∧
    (run clusterFile blankDirective ["print".toList] {} {}).exitCode = crashCode :=
  ⟨by decide +kernel, by decide +kernel, by decide +kernel⟩

end Command

end AuthProxy
