import AuthProxy.Toml.Value

/-!
# Layered trees of values

The file and the overrides are merged into one untyped tree before it is read as a configuration. Every node knows
whether it stands as it was in the file; tables do not, since merging builds them anew, unless they are items of a
list. A value is put at a path: tables and lists on the way are made as needed, whatever stands in their place, a table
is merged into the table there entry by entry, and any other value replaces what is there. That memory holds no list of any length
is a matter of the paths (`Segment.fits`), which are looked at before a value is put at one.
-/

namespace AuthProxy.Layer

open Number

/-- A value that is neither a list nor a table. -/
inductive Scalar where
  | flag (b : Bool)
  | integer (i : Int)
  | float (x : Binary64)
  | text (s : String)
deriving Repr, DecidableEq

/-- A tree of values; `fromFile` marks what stands as it was in the file. -/
inductive Tree where
  | nil
  | scalar (fromFile : Bool) (s : Scalar)
  | list (fromFile : Bool) (items : List Tree)
  | table (fromFile : Bool) (entries : List (String × Tree))
deriving Repr

/-- The entries of a table. -/
abbrev Entries := List (String × Tree)

/-- One step of a path: to an entry of a table or to an item of a list, from its end where negative. -/
inductive Segment where
  | key (k : String)
  | index (i : Int)
deriving Repr, DecidableEq

namespace Tree

/-- The tree of no values. -/
def empty : Tree :=
  .table false []

/-- A text that does not come from the file. -/
def ofText (s : String) : Tree :=
  .scalar false (.text s)

/-- A list of texts that does not come from the file. -/
def ofTexts (xs : List String) : Tree :=
  .list false (xs.map ofText)

mutual

/-- A value of the file; a date or time is a text. -/
def ofToml : Toml.Value → Tree
  | .flag b => .scalar true (.flag b)
  | .integer i => .scalar true (.integer i)
  | .float x => .scalar true (.float x)
  | .text s => .scalar true (.text s)
  | .dateTime s => .scalar true (.text s)
  | .list items => .list true (ofTomlItems items)
  | .table entries => .table true (ofTomlEntries entries)

def ofTomlItems : List Toml.Value → List Tree
  | [] => []
  | v :: r => ofToml v :: ofTomlItems r

def ofTomlEntries : List (String × Toml.Value) → Entries
  | [] => []
  | (k, v) :: r => (k, ofToml v) :: ofTomlEntries r

end

/-- The entries with `f` done to the one of a key, which is nil where it is new. -/
def alter (key : String) (f : Tree → Tree) : Entries → Entries
  | [] => [(key, f nil)]
  | (k, t) :: r => if k = key then (k, f t) :: r else (k, t) :: alter key f r

/-- The table with `f` done to the entry of a key; anything else is first replaced by an empty table. -/
def alterEntry (key : String) (f : Tree → Tree) : Tree → Tree
  | table fromFile entries => table fromFile (alter key f entries)
  | _ => table false (alter key f [])

/-- The items with `f` done to the one at an index. Nil items fill the list up to an index beyond its end, or in front
    of it for a negative one beyond its start. -/
def alterAt (i : Int) (f : Tree → Tree) (items : List Tree) : List Tree :=
  if 0 ≤ i then
    let filled := items ++ List.replicate (i.toNat + 1 - items.length) nil
    filled.modify i.toNat f
  else if 0 ≤ items.length + i then items.modify (items.length + i).toNat f
  else (List.replicate (-(items.length + i)).toNat nil ++ items).modify 0 f

/-- The list with `f` done to the item at an index; anything else is first replaced by an empty list. -/
def alterItem (i : Int) (f : Tree → Tree) : Tree → Tree
  | list fromFile items => list fromFile (alterAt i f items)
  | _ => list false (alterAt i f [])

mutual

/-- The tree that a value makes of the one it is put onto. -/
def put : Tree → Tree → Tree
  | table _ entries, target => putEntries entries (match target with | table b es => table b es | _ => empty)
  | value, _ => value

/-- The table that entries make of the one they are merged into. -/
def putEntries : Entries → Tree → Tree
  | [], target => target
  | (k, v) :: r, target => putEntries r (alterEntry k (put v) target)

end

/-- The tree with `f` done to the node at a path. -/
def alterPath (f : Tree → Tree) : List Segment → Tree → Tree
  | [], t => f t
  | .key k :: path, t => alterEntry k (alterPath f path) t
  | .index i :: path, t => alterItem i (alterPath f path) t

/-- The tree with a value put at a path. -/
def putAt (path : List Segment) (value : Tree) (t : Tree) : Tree :=
  alterPath (put value) path t

/-- The entry of a key. -/
def child? (key : String) : Tree → Option Tree
  | table _ entries => entries.lookup key
  | _ => none

end Tree

end AuthProxy.Layer
