import AuthProxy.Command.Arguments
import AuthProxy.Command.Report
import AuthProxy.Log.Install

/-!
# The process of a run

A process loads its configuration twice: first, with no log, to learn how to log, and then again for good. A load that fails is
logged by the settings it falls back on. What a process logged and printed before it stops is there.
-/

namespace AuthProxy.Command

open Log

/-- What a process has done so far: the log that it installed, what it logged and what it printed. -/
structure Console where
  filter : Option Filter := none
  logged : List Event := []
  output : String := ""

/-- A part of a process. It may stop, and what it wrote before is written. -/
abbrev Process (α : Type) := ExceptT (Stop Failure) (StateM Console) α

namespace Process

def fail {α : Type} (f : Failure) : Process α :=
  throw (.fault f)

def crash {α : Type} : Process α :=
  throw .crash

/-- Log events that pass the filter which is installed. -/
def log (events : List Event) : Process Unit :=
  modify fun s => { s with logged := s.logged ++ passed s.filter events }

def print (text : String) : Process Unit :=
  modify fun s => { s with output := s.output ++ text }

/-- Log what a load does, and go on with what it gives; there is nothing to go on with if it crashes. -/
def load (result : LoadResult) : Process (Except LoadFault Configuration) := do
  log result.events
  match result.outcome with
  | .ok c => return .ok c
  | .error (.fault f) => return .error f
  | .error .crash => crash

/-- Install the log that settings ask for. -/
def install (settings : Logging) : Process Unit :=
  match install? settings with
  | .ok filter => modify fun s => { s with filter := filter }
  | .error _ => crash

/-- The settings to log by; a load that failed has them from what it falls back on. -/
def settingsOf : Except LoadFault Configuration → Logging
  | .ok c => c.logging
  | .error f => f.fallback.logging

/-- Do what is asked for with what was loaded. -/
def perform (fs : FileSystem) (action : Action) : Except LoadFault Configuration → Process Unit
  | .error f => fail (.load f)
  | .ok c =>
    match action with
    | .check =>
      match check fs c with
      | .error f => fail f
      | .ok text => do
        log [.checked c.server.port]
        print (text ++ "\n")
    | .print => print (render c)

/-- Load to learn how to log, install the log, load for good, and do what is asked for. -/
def execute (fs : FileSystem) (action : Action) (first second : LoadResult) : Process Unit := do
  install (settingsOf (← load first))
  perform fs action (← load second)

/-- What a process leaves behind; the words of a crash itself are left out. -/
def report (p : Process Unit) : Report :=
  match p.run.run {} with
  | (.ok _, s) => ⟨0, s.output, textOfLines (s.logged.map Event.line)⟩
  | (.error (.fault f), s) => ⟨1, s.output, textOfLines (s.logged.map Event.line ++ f.lines)⟩
  | (.error .crash, s) => ⟨crashCode, s.output, textOfLines (s.logged.map Event.line)⟩

end Process

end AuthProxy.Command
