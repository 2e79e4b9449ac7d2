import AuthProxy.Text.Utf8

/-!
# Arguments of the command line

A command line is `[-c FILE] [check | print]`; `help`, `--help` and `--version` ask for a text instead. The file can be
given by an option alone, by its variable, or not at all. An option is settled, that is, looked at with its value, only when
the next option is met or at the very end: until then an argument that is unknown is reported first.
-/

namespace AuthProxy.Command

open Text

/-- What is to be done with a configuration. -/
inductive Action where
  /-- Check it. -/
  | check
  /-- Print it with its secrets hidden. -/
  | print
deriving Repr, DecidableEq

/-- What a command line asks for. -/
structure Invocation where
  /-- What is to be done, if it is said. -/
  action : Option Action
  /-- The path of the file layer. -/
  file : Option Bytes
deriving Repr, DecidableEq

/-- What is done; without anything said a configuration is checked. -/
def Invocation.effective (i : Invocation) : Action :=
  i.action.getD .check

/-- What is wrong with a command line. -/
inductive Misuse where
  /-- An option has no value or an empty one. -/
  | invalidValue
  /-- An option is given twice. -/
  | argumentConflict
  | unknownArgument
  | invalidSubcommand
  /-- A flag is given a value. -/
  | tooManyValues
deriving Repr, DecidableEq

/-- Why a command line asks for nothing to be done. -/
inductive Ending where
  | help
  | version
  | misuse (m : Misuse)
deriving Repr, DecidableEq

/-- A reading of arguments. -/
abbrev Reading := Except Ending

/-- A command line is wrong. -/
def wrong (m : Misuse) : Reading α :=
  .error (.misuse m)

/-- The option for the file, as far as it has been read. -/
inductive Pending where
  | nothing
  /-- The option is there and its value has yet to come. -/
  | awaiting
  /-- The option has a value. -/
  | value (path : List Char)
deriving Repr, DecidableEq

/-- Where a reading stands: the file of the options that are settled, and the one that is not. -/
structure State where
  file : Option (List Char) := none
  pending : Pending := .nothing
deriving Repr, DecidableEq

namespace State

/-- The state with the option settled on a value. -/
def settleOn (st : State) (path : List Char) : Reading State :=
  if st.file.isSome then wrong .argumentConflict
  else if path.isEmpty then wrong .invalidValue
  else .ok { file := some path }

/-- The state with nothing left to settle. -/
def settle (st : State) : Reading State :=
  match st.pending with
  | .nothing => .ok st
  | .awaiting => wrong .invalidValue
  | .value path => { st with pending := .nothing }.settleOn path

/-- The state behind the option, whose value may be attached to it. -/
def option (st : State) (attached : Option (List Char)) : Reading State := do
  let st ← st.settle
  match attached with
  | some path => st.settleOn path
  | none => .ok { st with pending := .awaiting }

/-- An ending that a flag asks for; what has been read must be in order. -/
def askFor (st : State) (e : Ending) : Reading State := do
  let _ ← st.settle
  .error e

end State

/-- The name of a long option and the value that is attached to it. -/
def splitLong (s : List Char) : List Char × Option (List Char) :=
  match s.dropWhile (· != '=') with
  | _ :: value => (s.takeWhile (· != '='), some value)
  | [] => (s, none)

/-- The state behind a long option, given without its hyphens. -/
def longOption (st : State) (s : List Char) : Reading State :=
  let (name, attached) := splitLong s
  if name = "config".toList then st.option attached
  else if name = "help".toList ∨ name = "version".toList then
    if attached.isSome then wrong .tooManyValues
    else st.askFor (if name = "help".toList then .help else .version)
  else wrong .unknownArgument

/-- The state behind short options in one argument, given without its hyphen. Whatever follows the letter of the option for
    the file is its value. -/
def shortOptions (st : State) : List Char → Reading State
  | 'c' :: r =>
    match r with
    | [] => st.option none
    | '=' :: path => st.option (some path)
    | path => st.option (some path)
  | 'h' :: _ => st.askFor .help
  | 'V' :: _ => st.askFor .version
  | _ => wrong .unknownArgument

/-- The name of the command that asks for help. -/
def helpName : List Char := "help".toList

/-- The action that a name stands for. -/
def action? (name : List Char) : Option Action :=
  if name = "check".toList then some .check
  else if name = "print".toList then some .print
  else none

/-- What `help` ends with: the arguments behind it lead to a command, and no command has others within. -/
def helpOn : List (List Char) → Ending
  | [] => .help
  | [name] => if (action? name).isSome ∨ name = helpName then .help else .misuse .invalidSubcommand
  | _ => .misuse .invalidSubcommand

/-- The arguments behind an action: none, or a question for help. -/
def actionArguments : List (List Char) → Reading Unit
  | [] => .ok ()
  | ['-', '-'] :: r => if r.isEmpty then .ok () else wrong .unknownArgument
  | ('-' :: '-' :: s) :: _ =>
    let (name, attached) := splitLong s
    if name ≠ "help".toList then wrong .unknownArgument
    else if attached.isSome then wrong .tooManyValues
    else .error .help
  | ('-' :: 'h' :: _) :: _ => .error .help
  | _ => wrong .unknownArgument

/-- The fault of an argument that is neither an option nor a value, behind `--` or not. -/
def strayArgument (behindDashes : Bool) (name : List Char) : Misuse :=
  if behindDashes ∧ ((action? name).isSome ∨ name = helpName) then .unknownArgument else .invalidSubcommand

/-- The state and the action at the end of the arguments. An argument behind an option that awaits its value is that value,
    unless it looks like an option. -/
def readFrom (st : State) : List (List Char) → Reading (State × Option Action)
  | [] => .ok (st, none)
  | name :: r =>
    if st.pending ≠ .awaiting ∧ name = helpName then .error (helpOn r)
    else
      match if st.pending = .awaiting then none else action? name with
      | some action => do
        actionArguments r
        .ok (st, some action)
      | none =>
        match name with
        | ['-', '-'] =>
          match r with
          | [] => .ok (st, none)
          | next :: _ => wrong (strayArgument true next)
        | '-' :: '-' :: s => do readFrom (← longOption st s) r
        | '-' :: c :: s => do readFrom (← shortOptions st (c :: s)) r
        | name =>
          if st.pending = .awaiting then readFrom { st with pending := .value name } r
          else wrong (strayArgument false name)

/-- The path of the file layer: from the option, or else the one that the variable names, where an empty one is wrong. -/
def fileOf (st : State) (named : Option Bytes) : Reading (Option Bytes) :=
  match st.file, named with
  | some path, _ => .ok (some (encodeUtf8 path))
  | none, some path => if path.isEmpty then wrong .invalidValue else .ok (some path)
  | none, none => .ok none

/-- What a command line asks for, given the file that the variable names. -/
def Invocation.read (arguments : List (List Char)) (named : Option Bytes) : Reading Invocation := do
  let (st, action) ← readFrom {} arguments
  let file ← fileOf (← st.settle) named
  .ok ⟨action, file⟩

end AuthProxy.Command
