import AuthProxy.Binding.Override
import AuthProxy.Files.Basic
import AuthProxy.Layer.Path
import AuthProxy.Layer.Reading
import AuthProxy.Toml.Document

/-!
# The sources of a configuration

A configuration is read from layers: the built-in defaults, perhaps a TOML file over them, and the overrides over both.
The overrides and the name of the file are settled first, so that faults in them are reported before anything that the
file holds. Tables are hashed, and gone through in an order that is drawn anew for every load (`Walk`).
-/

namespace AuthProxy

open Text

/-- A file that is a layer: its path, and its content or the reason that it cannot be read. -/
structure FileLayer where
  name : List Char
  content : Except String Bytes

/-- What a configuration is read from over its defaults. -/
structure Sources where
  file : Option FileLayer
  overrides : List Override

/-- The orders in which a load goes through tables: that in which the fields are read, and that in which the keys at the top of
    the file are put. The latter depends on nothing but the keys. -/
structure Walk where
  fields : Field.Order := .declared
  keys : Toml.Table → Toml.Table := id
  perm : ∀ t, (keys t).Perm t := by exact fun t => .refl t
  keys_congr : ∀ t t', t.map (·.1) = t'.map (·.1) → (keys t).map (·.1) = (keys t').map (·.1) := by exact fun _ _ h => h

namespace Sources

/-- The layer that a path leads to: a regular file, whose path must be a text. -/
def fileLayer (fs : FileSystem) (path : Bytes) : Outcome Fault FileLayer :=
  let shown := String.ofList (decodeLossy path)
  match fs.regular? path, decodeUtf8? path with
  | none, _ => report (.fileNotFound shown)
  | some _, none => report (.invalidValue "config file" shown)
  | some content, some name => .ok ⟨name, content⟩

/-- The sources that a path and variables make up. -/
def ofVariables (fs : FileSystem) (path : Option Bytes) (pairs : List (String × String)) : Outcome Fault Sources := do
  let overrides ← collectOverrides pairs
  match path with
  | none => .ok ⟨none, overrides⟩
  | some path =>
    let file ← fileLayer fs path
    .ok ⟨some file, overrides⟩

/-- The mark that may stand in front of a text in UTF-8. -/
def byteOrderMark : Bytes := [0xEF, 0xBB, 0xBF]

/-- The text of a file: stray bytes are replaced, and a byte order mark in front is dropped. -/
def textOfContent (content : Bytes) : List Char :=
  decodeLossy (if byteOrderMark.isPrefixOf content then content.drop byteOrderMark.length else content)

/-- The document that the content of a file is; its integers must fit 64 bits. -/
def documentOf? (content : Bytes) : Option Toml.Table :=
  (Toml.parse? (textOfContent content)).filter Toml.integersFitEntries

/-- The document in a file. -/
def readFile (fs : FileSystem) (file : FileLayer) : Except Layer.Misfit Toml.Table :=
  match file.content with
  | .error reason => .error (.unreadableFile reason)
  | .ok content =>
    match documentOf? content with
    | some table => .ok table
    | none => .error (.malformedFile (fs.complaint (textOfContent content)) (fs.shownPath file.name))

/-- Memory holds the lists that the keys of a document lead into. -/
def fits (room : Nat) (table : Toml.Table) : Bool :=
  table.all fun (key, _) => (Layer.pathOfKey key).all (·.fits room)

/-- The tree of a document, each of whose keys is put where it leads as a path. -/
def treeOfFile (table : Toml.Table) : Layer.Tree :=
  table.foldl (fun t (key, v) => .putAt (Layer.pathOfKey key) (.ofToml v) t) .empty

/-- The value of an override in a tree. -/
def overrideTree : CoercedValue → Layer.Tree
  | .text s => .ofText s
  | .list items => .ofTexts items

/-- The tree with overrides put at the paths of their fields. -/
def override (t : Layer.Tree) (overrides : List Override) : Layer.Tree :=
  overrides.foldl (fun t o => .putAt (o.binding.field.path.map .key) (overrideTree o.value) t) t

/-- The tree that the overrides are put into: that of the file, whose keys are put in the order of the walk. -/
def base (fs : FileSystem) (walk : Walk) (s : Sources) : Outcome Fault Layer.Tree :=
  match s.file with
  | none => .ok .empty
  | some file =>
    match readFile fs file with
    | .ok table => if fits fs.room table then .ok (treeOfFile (walk.keys table)) else .error .crash
    | .error misfit => report (.misfit misfit)

/-- The configuration that the sources make up. -/
def read (fs : FileSystem) (walk : Walk) (s : Sources) : Outcome Fault Configuration := do
  let tree ← s.base fs walk
  (Layer.readConfiguration walk.fields (s.file.map fun file => fs.shownPath file.name)
    (override tree s.overrides)).mapFault .misfit

end Sources

end AuthProxy
