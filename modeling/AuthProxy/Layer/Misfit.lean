import AuthProxy.Layer.Tree
import AuthProxy.Text.Quoted

/-!
# Values that do not fit

Why a layered tree is not a configuration, and the messages that say so. A fault names the key it is at, and the file
when the value stands as it was there.
-/

namespace AuthProxy.Layer

open Number Text

/-- What was found where something else was expected. -/
inductive Found where
  | unit
  | flag (b : Bool)
  | integer (i : Int)
  | signed (i : Int)
  | unsigned (n : Nat)
  | float (x : Binary64)
  | text (s : String)
  | sequence
  | map
deriving Repr, DecidableEq

/-- Why the merged layers are not a configuration. -/
inductive Misfit where
  /-- The file is not a TOML document, in the words of its reader. -/
  | malformedFile (complaint file : String)
  /-- The file cannot be read, for a reason that the system gives. -/
  | unreadableFile (reason : String)
  /-- A value has the wrong type; `file` is where it comes from, if it stands there as it is. -/
  | wrongType (found : Found) (expected key : String) (file : Option String)
  /-- A value has the wrong shape for what is read from it. -/
  | wrongShape (found : Found) (expected key : String)
  /-- A value of the right type is refused, in words. -/
  | refused (reason key : String)
deriving Repr, DecidableEq

namespace Found

/-- What a node is, as found. -/
def ofTree : Tree → Found
  | .nil => unit
  | .scalar _ (.flag b) => flag b
  | .scalar _ (.integer i) => integer i
  | .scalar _ (.float x) => float x
  | .scalar _ (.text s) => text s
  | .list .. => sequence
  | .table .. => map

/-- A word for what was found, with its text between back quotes. -/
def named (word : String) (value : List Char) : String :=
  word ++ " `" ++ String.ofList value ++ "`"

/-- What was found, in words. -/
def message : Found → String
  | unit => "unit value"
  | flag b => named "boolean" (if b then "true".toList else "false".toList)
  | integer i => named "integer" (signedDecimal i)
  | signed i => named "64-bit integer" (signedDecimal i)
  | unsigned n => named "64-bit unsigned integer" (decimal n)
  | float x => named "floating point" x.pointedText
  | text s => "string " ++ String.ofList (quote s.toList)
  | sequence => "sequence"
  | map => "map"

end Found

/-- The part of a message that names the key. -/
def atKey (key : String) : String :=
  " for key `" ++ key ++ "`"

/-- What does not fit, in words. -/
def Misfit.message : Misfit → String
  | malformedFile complaint file => complaint ++ " in " ++ file
  | unreadableFile reason => reason
  | wrongType found expected key file =>
    "invalid type: " ++ found.message ++ ", expected " ++ expected ++ atKey key ++
      (match file with | some f => " in " ++ f | none => "")
  | wrongShape found expected key =>
    "invalid type: " ++ found.message ++ ", expected " ++ expected ++ atKey key
  | refused reason key => reason ++ atKey key

end AuthProxy.Layer
