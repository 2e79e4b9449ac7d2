import AuthProxy.Fault
import AuthProxy.Log.Level

/-!
# Events

What the program logs. An event has a level, a target that says which part of the program it comes from, a message, and
named fields; of the values of variables it shows none.
-/

namespace AuthProxy.Log

open Number Text

/-- An event that may be logged. -/
inductive Event where
  /-- A variable overrides the field at a path. -/
  | overrideApplied (key path : String)
  /-- A configuration was loaded, perhaps over a file. -/
  | loaded (file : Option Bytes) (port : UInt16)
  | loadFailed (cause : Fault)
  /-- A configuration passed its checks. -/
  | checked (port : UInt16)
deriving Repr, DecidableEq

namespace Event

def level : Event → Level
  | overrideApplied .. => .debug
  | loaded .. => .info
  | loadFailed .. => .error
  | checked .. => .info

/-- The part of the program that an event comes from. -/
def target : Event → String
  | checked .. => "sso_proxy_config::cli::executor"
  | _ => "sso_proxy_config::config::loader"

def message : Event → String
  | overrideApplied .. => "applying configuration override"
  | loaded .. => "configuration loaded"
  | loadFailed .. => "configuration load failed"
  | checked .. => "configuration is valid"

/-- The name of a file, if there is one. -/
def fileText : Option Bytes → List Char
  | none => "None".toList
  | some file => "Some(".toList ++ quoteBytes file ++ [')']

/-- The fields of an event besides its message, with their texts. -/
def fields : Event → List (String × List Char)
  | overrideApplied key path => [("key", quote key.toList), ("path", quote path.toList)]
  | loaded file port => [("file", fileText file), ("port", decimal port.toNat)]
  | loadFailed cause => [("error", cause.message.toList)]
  | checked port => [("port", decimal port.toNat)]

/-- The names of an event's fields; the message is one of them. -/
def fieldNames (e : Event) : List String :=
  "message" :: e.fields.map (·.1)

/-- The level in capitals. -/
def levelText (l : Level) : String :=
  String.ofList (l.name.map Char.toUpper)

/-- The event as a line of the log. -/
def line (e : Event) : String :=
  levelText e.level ++ " " ++ e.target ++ ": " ++ e.message ++
    String.join (e.fields.map fun (name, text) => " " ++ name ++ "=" ++ String.ofList text)

end Event

end AuthProxy.Log
