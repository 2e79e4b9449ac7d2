import AuthProxy.Check
import AuthProxy.Loading.Loader
import AuthProxy.Toml.Writer

/-!
# Reports of runs

What a run leaves behind, and the texts in it: the summary of a configuration that passed its checks, a configuration as it is
printed, and the lines on a failure with all its causes.
-/

namespace AuthProxy.Command

/-- What a run leaves behind: the exit code and what it wrote. -/
structure Report where
  exitCode : UInt32
  output : String
  errors : String
deriving Repr, DecidableEq

/-- Why a run did not do what was asked for. -/
inductive Failure where
  | load (f : LoadFault)
  | invalid (f : Fault)
deriving Repr, DecidableEq

namespace Failure

/-- The outermost words on a failure. -/
def message : Failure → String
  | load _ => "Configuration load failed"
  | invalid _ => "Configuration is invalid"

/-- The fault at the bottom of a failure. -/
def cause : Failure → Fault
  | load f => f.cause
  | invalid f => f

/-- The texts of the causes, from the nearest on. -/
def chain : Failure → List String
  | load f => f.message :: f.chain
  | invalid f => f.message :: f.chain

/-- The text with each line break followed by blanks. -/
def indent (width : Nat) (s : String) : String :=
  String.ofList (s.toList.flatMap fun c => if c = '\n' then '\n' :: List.replicate width ' ' else [c])

/-- The causes as they are listed: numbered from `n` on. -/
def numbered : (n : Nat) → List String → List String
  | _, [] => []
  | n, s :: r =>
    let number := toString n
    let margin := String.ofList (List.replicate (5 - number.length) ' ')
    (margin ++ number ++ ": " ++ indent 7 s) :: numbered (n + 1) r

/-- The lines on the causes; a single one has no number. -/
def causeLines : List String → List String
  | [] => []
  | [s] => ["", "Caused by:", "    " ++ indent 4 s]
  | chain => "" :: "Caused by:" :: numbered 0 chain

/-- The lines on a failure. -/
def lines (f : Failure) : List String :=
  ("Error: " ++ f.message) :: causeLines f.chain

end Failure

/-- Lines as a text, each of them ended. -/
def textOfLines (lines : List String) : String :=
  String.join (lines.map (· ++ "\n"))

/-- A configuration that passed its checks, on one line. -/
def summary (c : Configuration) : String :=
  "✓ Configuration is valid (listen " ++ c.server.listenAddress ++ ", provider " ++ c.provider.slug ++ ", cluster " ++
    c.upstream.cluster ++ ", statsd " ++ c.metrics.statsd.address ++ ")"

/-- Check a configuration; the answer is its summary. -/
def check (fs : FileSystem) (c : Configuration) : Except Failure String :=
  match c.check fs with
  | .ok _ => .ok (summary c)
  | .error f => .error (.invalid f)

/-- A configuration as it is printed, with its secrets hidden. -/
def render (c : Configuration) : String :=
  String.ofList (Toml.write c.redacted)

/-- The exit code of a process that crashed. -/
def crashCode : UInt32 := 101

end AuthProxy.Command
