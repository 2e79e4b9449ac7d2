import AuthProxy.Text.Split
import AuthProxy.Text.Utf8

/-!
# Files

What the proxy asks of the machine that it runs on: the content of a regular file, whether a path can be opened, how long a list
memory holds, and what the reader of documents says of a text that is none. Everything else is stated over any such system, so
that no statement depends on a machine.
-/

namespace AuthProxy

open Text

/-- Why a path cannot be opened. -/
inductive OpenFault where
  | noSuchFile
  | notDirectory
  | nameTooLong
  /-- The path holds a zero byte. -/
  | zeroByte
  /-- Any other reason, in the words of the system. -/
  | other (reason : String)
deriving Repr, DecidableEq

/-- The reason in words. -/
def OpenFault.message : OpenFault → String
  | noSuchFile => "No such file or directory (os error 2)"
  | notDirectory => "Not a directory (os error 20)"
  | nameTooLong => "File name too long (os error 36)"
  | zeroByte => "file name contained an unexpected NUL byte"
  | other reason => reason

/-- The files that a process sees, and what they are read with; paths are byte strings. -/
structure FileSystem where
  /-- The names that lead from the root to the working directory. -/
  workingDirectory : List (List Char)
  /-- The content of a regular file, or the reason that it cannot be read; nothing for other paths. -/
  regular? : Bytes → Option (Except String Bytes)
  /-- Why a path cannot be opened for reading, if it cannot. -/
  openFault? : Bytes → Option OpenFault
  /-- The words of the reader on a text that is no document. They may quote the text. -/
  complaint : List Char → String := fun _ => "TOML parse error"
  /-- The length of the longest list that memory holds. -/
  room : Nat := 2 ^ 24

/-- A file system without files. -/
def FileSystem.blank : FileSystem where
  workingDirectory := []
  regular? _ := none
  openFault? _ := none

/-- A file system with one regular file, named `c`, which holds a text. -/
def FileSystem.single (text : List Char) : FileSystem :=
  { FileSystem.blank with regular? := fun path => if path = [99] then some (.ok (encodeUtf8 text)) else none }

theorem FileSystem.regular?_single (text : List Char) :
    (FileSystem.single text).regular? [99] = some (.ok (encodeUtf8 text)) := by
  simp [single]

/-- The names that make up a path; empty ones and `.` do not count. -/
def pathNames (path : List Char) : List (List Char) :=
  (splitAt '/' path).filter fun name => name ≠ [] ∧ name ≠ ['.']

/-- The names that lead from one directory to a place, both given from the root. -/
def relativeNames : (base place : List (List Char)) → List (List Char)
  | b :: base, p :: place =>
    if b = p then relativeNames base place
    else (b :: base).map (fun _ => ['.', '.']) ++ p :: place
  | base, place => base.map (fun _ => ['.', '.']) ++ place

/-- A path as it is named in messages: relative to the working directory, without detours over `.`. -/
def FileSystem.shownPath (fs : FileSystem) (path : List Char) : String :=
  let names := pathNames path
  let place := if path.head? = some '/' then names else fs.workingDirectory ++ names
  String.ofList (['/'].intercalate (relativeNames fs.workingDirectory place))

end AuthProxy
