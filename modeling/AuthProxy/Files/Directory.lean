import AuthProxy.Files.Basic

/-!
# File systems in memory

A file system given as a tree of directories. A path is walked name by name: `..` leads to the directory above, every name
but the last must be a directory, and a slash at the end asks for one too.
-/

namespace AuthProxy

open Text

/-- An entry of a directory. -/
inductive Entry where
  | file (content : Bytes)
  /-- A device; it can be opened, but is no regular file. -/
  | device
  | directory (entries : List (Bytes × Entry))

namespace Entry

/-- The slash that separates the names of a path. -/
def slash : UInt8 := 47

/-- The names of a path, with an empty one at the end for a slash there. -/
def splitPath (path : Bytes) : List Bytes :=
  splitAt slash path

/-- The greatest length of a name and of a path. -/
def nameLimit : Nat := 255

def pathLimit : Nat := 4095

/-- The entry that names lead to from a directory, whose parents are given from the nearest on. -/
def walk (parents : List Entry) (here : Entry) : List Bytes → Except OpenFault Entry
  | [] => .ok here
  | name :: r =>
    match here with
    | directory entries =>
      if name = [] ∨ name = [46] then walk parents here r
      else if name = [46, 46] then
        match parents with
        | [] => walk [] here r
        | parent :: above => walk above parent r
      else if nameLimit < name.length then .error .nameTooLong
      else
        match entries.lookup name with
        | some e => walk (here :: parents) e r
        | none => .error .noSuchFile
    | _ => .error .notDirectory

/-- The directories on the way from the root, with the last one first. -/
def chain (here : Entry) (above : List Entry) : List Bytes → List Entry
  | [] => here :: above
  | name :: r =>
    match here with
    | directory entries =>
      match entries.lookup name with
      | some e => chain e (here :: above) r
      | none => here :: above
    | _ => here :: above

/-- The entry that a path leads to, from the working directory unless it starts with a slash. -/
def resolve (root : Entry) (workingDirectory : List Bytes) (path : Bytes) : Except OpenFault Entry :=
  if path.contains 0 then .error .zeroByte
  else if path = [] then .error .noSuchFile
  else if pathLimit < path.length then .error .nameTooLong
  else if path.head? = some slash then walk [] root (splitPath path)
  else
    match chain root [] workingDirectory with
    | here :: above => walk above here (splitPath path)
    | [] => .error .noSuchFile

/-- The names of a path without `.` and without detours over `..`. -/
def plainNames (names : List Bytes) : List Bytes :=
  names.foldl (fun acc name =>
    if name = [] ∨ name = [46] then acc
    else if name = [46, 46] then acc.dropLast
    else acc ++ [name]) []

/-- The entries with a file at a path of names; directories are made on the way. -/
def addFile (content : Bytes) : List Bytes → List (Bytes × Entry) → List (Bytes × Entry)
  | [], entries => entries
  | [name], entries => (name, file content) :: entries.filter (·.1 ≠ name)
  | name :: r, entries =>
    let inner := match entries.lookup name with
      | some (directory es) => es
      | _ => []
    (name, directory (addFile content r inner)) :: entries.filter (·.1 ≠ name)

end Entry

/-- The file system with a tree of directories as its root. -/
def FileSystem.ofEntry (root : Entry) (workingDirectory : List Bytes) : FileSystem where
  workingDirectory := workingDirectory.map decodeLossy
  regular? path :=
    match root.resolve workingDirectory path with
    | .ok (.file content) => some (.ok content)
    | _ => none
  openFault? path :=
    match root.resolve workingDirectory path with
    | .ok _ => none
    | .error e => some e

end AuthProxy
