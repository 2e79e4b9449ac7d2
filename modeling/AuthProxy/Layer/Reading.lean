import AuthProxy.Configuration.Gathering
import AuthProxy.Duration.Reader
import AuthProxy.Layer.Misfit
import AuthProxy.Text.LowerCase

/-!
# Reading a configuration from a layered tree

Since overrides are texts, values are converted with some generosity: a number or a flag is a text where a text is
expected, a text is a flag or a number where it can be, and a section may be written as a list of its entries. A section
that is absent has its defaults, and so does an entry.
-/

namespace AuthProxy.Layer

open Number Text

/-- A reading that may find the tree unfit, or crash over a duration. -/
abbrev Reading := Outcome Misfit

/-- A node of the tree with the key that leads to it. -/
structure Located where
  tree : Tree
  key : String
deriving Repr

namespace Located

/-- The key of an entry. -/
def keyOf (parent entry : String) : String :=
  if parent = "" then entry else parent ++ "." ++ entry

/-- The key of an item. -/
def itemKey (parent : String) (i : Nat) : String :=
  parent ++ "[" ++ toString i ++ "]"

/-- The file that a node comes from, if it stands there as it is. -/
def source (file : Option String) (n : Located) : Option String :=
  match n.tree with
  | .scalar true _ | .list true _ | .table true _ => file
  | _ => none

/-- A fault at a node: it has the wrong type. -/
def wrongType (file : Option String) (n : Located) (expected : String) : Reading α :=
  report (.wrongType (.ofTree n.tree) expected n.key (n.source file))

/-- A fault at a node: it has the wrong shape. -/
def wrongShape (n : Located) (expected : String) : Reading α :=
  report (.wrongShape (.ofTree n.tree) expected n.key)

/-- The node one step further, if it is there. A section is a table, or a list of its entries in order. -/
def step (n : Located) (s : Step) : Reading (Option Located) :=
  match n.tree with
  | .table _ entries => .ok ((entries.lookup s.key).map (⟨·, keyOf n.key s.key⟩))
  | .list _ items => .ok (items[s.position]?.map (⟨·, itemKey n.key s.position⟩))
  | _ => n.wrongShape ("struct " ++ s.title)

/-- The node at the end of a route, if it is there. -/
def follow (n : Located) : List Step → Reading (Option Located)
  | [] => .ok (some n)
  | s :: r => do
    match ← n.step s with
    | some m => m.follow r
    | none => .ok none

/-- A scalar as a text. -/
def scalarText : Scalar → String
  | .text s => s
  | .flag b => if b then "true" else "false"
  | .integer i => String.ofList (signedDecimal i)
  | .float x => String.ofList x.text

/-- The node as a text. -/
def text (file : Option String) (n : Located) : Reading String :=
  match n.tree with
  | .scalar _ s => .ok (scalarText s)
  | _ => n.wrongType file "a string"

/-- The words for true and false. -/
def flagWord? (s : List Char) : Option Bool :=
  if s = "1".toList ∨ s = "true".toList ∨ s = "on".toList ∨ s = "yes".toList then some true
  else if s = "0".toList ∨ s = "false".toList ∨ s = "off".toList ∨ s = "no".toList then some false
  else none

/-- The node as a flag: a number other than zero is true, and so are some words in any case. -/
def flag (file : Option String) (n : Located) : Reading Bool :=
  match n.tree with
  | .scalar _ (.flag b) => .ok b
  | .scalar _ (.integer i) => .ok (i != 0)
  | .scalar _ (.float x) => .ok (!x.isZero)
  | .scalar _ (.text s) =>
    let lower := lowerCase s.toList
    match flagWord? lower with
    | some b => .ok b
    | none => report (.wrongType (.text (String.ofList lower)) "a boolean" n.key (n.source file))
  | _ => n.wrongType file "a boolean"

/-- A text as a number of 64 bits: a decimal numeral, or a word for true or false other than a digit. -/
def number? (s : List Char) : Option Nat :=
  let lower := lowerCase s
  if lower = "true".toList ∨ lower = "on".toList ∨ lower = "yes".toList then some 1
  else if lower = "false".toList ∨ lower = "off".toList ∨ lower = "no".toList then some 0
  else readBounded? (2 ^ 64) s

/-- The node as a number of 64 bits. -/
def number (file : Option String) (n : Located) : Reading Nat :=
  match n.tree with
  | .scalar _ (.flag b) => .ok (if b then 1 else 0)
  | .scalar _ (.integer i) =>
    if 0 ≤ i then .ok i.toNat
    else report (.wrongType (.signed i) "an unsigned 64 bit or less integer" n.key (n.source file))
  | .scalar _ (.float x) => .ok (x.toNatSaturating (2 ^ 64 - 1))
  | .scalar _ (.text s) =>
    match number? s.toList with
    | some k => .ok k
    | none => n.wrongType file "an integer"
  | _ => n.wrongType file "an integer"

/-- The node as a port: a number that fits 16 bits. -/
def port (file : Option String) (n : Located) : Reading UInt16 := do
  let k ← n.number file
  if k < 2 ^ 16 then .ok (UInt16.ofNat k)
  else report (.wrongType (.unsigned k) "an unsigned 16 bit integer" n.key none)

/-- The node as a duration, written as a text. -/
def duration (file : Option String) (n : Located) : Reading Duration := do
  (Duration.read (← n.text file)).mapFault (.refused · n.key)

/-- The items of a list as texts, numbered from `i` on. -/
def itemTexts (file : Option String) (key : String) : (i : Nat) → List Tree → Reading (List String)
  | _, [] => .ok []
  | i, t :: r => do
    let s ← text file ⟨t, itemKey key i⟩
    let rest ← itemTexts file key (i + 1) r
    .ok (s :: rest)

/-- The node as a list of texts. -/
def texts (file : Option String) (n : Located) : Reading (List String) :=
  match n.tree with
  | .list _ items => itemTexts file n.key 0 items
  | _ => n.wrongShape "a sequence"

/-- The node as a path, which nil leaves out. -/
def path (file : Option String) (n : Located) : Reading (Option String) :=
  match n.tree with
  | .nil => .ok none
  | _ => some <$> n.text file

/-- The node as a value of a kind. -/
def value (file : Option String) (n : Located) : (k : Kind) → Reading k.Value
  | .text => n.text file
  | .flag => n.flag file
  | .port => n.port file
  | .duration => n.duration file
  | .texts => n.texts file
  | .path => n.path file

end Located

/-- The value of a field in a tree, if it is there. -/
def readField (file : Option String) (t : Tree) (f : Field) : Reading (Option f.Value) := do
  match ← Located.follow ⟨t, ""⟩ f.route with
  | some n => some <$> n.value file f.kind
  | none => .ok none

/-- Whether a section is there. -/
def hasSection (t : Tree) (s : Section) : Bool :=
  match Located.follow ⟨t, ""⟩ s.route with
  | .ok (some _) => true
  | _ => false

/-- The configuration that a tree writes, read in some order. -/
def readConfiguration (order : Field.Order) (file : Option String) (t : Tree) : Reading Configuration :=
  Configuration.gather order (Configuration.completed (hasSection t) (readField file t))

end AuthProxy.Layer
