import AuthProxy.Command.Run

/-!
# What a process leaves behind

A process whose first load crashes, or that cannot install the log which the first load asks for, leaves nothing behind
(`Process.report_execute_of_crash`, `Process.report_execute_of_error`). Otherwise it goes on with the second load, whose events pass
the filter that is installed, and what it leaves behind is by the end of this load (`Process.report_execute`).
-/

namespace AuthProxy

open Log

namespace Command.Process

variable {fs : FileSystem} {action : Action} {first second : LoadResult} {x : Except LoadFault Configuration}
  {filter : Option Filter}

/-- A load that does not crash gives what is to be gone on with. -/
theorem load_eq {result : LoadResult} (h : result.outcome = x.mapError .fault) :
    load result = (do log result.events; return x) := by
  rw [load, h]
  cases x <;> rfl

/-- A first load that crashes ends a process. -/
theorem report_execute_of_crash (h : first.outcome = .error .crash) (fs : FileSystem) (action : Action) (second : LoadResult) :
    (execute fs action first second).report = ⟨crashCode, "", ""⟩ := by
  rw [execute, load, h]
  rfl

/-- A log that cannot be installed ends a process. -/
theorem report_execute_of_error {stop : Stop Empty} (hx : first.outcome = x.mapError .fault)
    (h : install? (settingsOf x) = .error stop) (fs : FileSystem) (action : Action) (second : LoadResult) :
    (execute fs action first second).report = ⟨crashCode, "", ""⟩ := by
  simp only [execute, load_eq hx, bind_assoc, pure_bind]
  rw [install, h]
  rfl

/-- **With a log installed** a process goes on: the events of the second load pass the filter, and those of the first are lost. -/
theorem report_execute (hx : first.outcome = x.mapError .fault) (hinstall : install? (settingsOf x) = .ok filter) :
    (execute fs action first second).report =
      let logged := (passed filter second.events).map Event.line
      match second.outcome with
      | .error .crash => ⟨crashCode, "", textOfLines logged⟩
      | .error (.fault f) => ⟨1, "", textOfLines (logged ++ (Failure.load f).lines)⟩
      | .ok c =>
        match action with
        | .print => ⟨0, render c, textOfLines logged⟩
        | .check =>
          match check fs c with
          | .error f => ⟨1, "", textOfLines (logged ++ f.lines)⟩
          | .ok text => ⟨0, text ++ "\n", textOfLines (logged ++ (passed filter [.checked c.server.port]).map Event.line)⟩ := by
  simp only [execute, load_eq hx, bind_assoc, pure_bind]
  rw [install, hinstall]
  dsimp only
  rcases hsecond : second.outcome with (f | _) | c
  · rw [load, hsecond]
    rfl
  · rw [load, hsecond]
    rfl
  · rw [load_eq (x := .ok c) hsecond]
    cases action with
    | print =>
      change Report.mk 0 ("" ++ render c) _ = _
      rw [String.empty_append]
      rfl
    | check =>
      simp only [bind_assoc, pure_bind, perform]
      cases check fs c with
      | error f => rfl
      | ok text =>
        change Report.mk 0 ("" ++ (text ++ "\n"))
          (textOfLines ((passed filter second.events ++ passed filter [.checked c.server.port]).map Event.line)) = _
        rw [String.empty_append, List.map_append]

end Command.Process

end AuthProxy
