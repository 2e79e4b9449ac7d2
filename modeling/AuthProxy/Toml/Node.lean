import AuthProxy.Toml.Value

/-!
# Tables under construction

While a document is read, its tables stay open to additions, but not to all: a table may be opened by a header once, a
dotted key may not reach into a table that a header opened, and a value is closed. `Node` is a table with what is
needed to tell, and its operations refuse what TOML forbids.
-/

namespace AuthProxy.Toml

/-- How a table came about. -/
inductive Origin where
  /-- Opened by a header, or the document itself. -/
  | opened
  /-- Implied by the header of a table within it. -/
  | implied
  /-- Made by a dotted key. -/
  | dotted
deriving Repr, DecidableEq

/-- A table under construction, or what stands in the place of one. -/
inductive Node where
  | leaf (v : Value)
  | table (origin : Origin) (entries : List (String × Node))
  /-- A series of tables: those that are complete, and the entries of the last one. -/
  | series (complete : List Value) (entries : List (String × Node))

namespace Node

/-- A document or an inline table before its first entry. -/
def empty : Node :=
  .table .opened []

mutual

/-- The finished value. -/
def toValue : Node → Value
  | leaf v => v
  | table _ entries => .table (entriesToTable entries)
  | series complete entries => .list (complete ++ [.table (entriesToTable entries)])

/-- The finished entries. -/
def entriesToTable : List (String × Node) → Table
  | [] => []
  | (k, n) :: r => (k, n.toValue) :: entriesToTable r

end

/-- The entries with the one of a key replaced, or added at the end. -/
def put (key : String) (n : Node) : List (String × Node) → List (String × Node)
  | [] => [(key, n)]
  | (k, m) :: r => if k = key then (k, n) :: r else (k, m) :: put key n r

/-- The node with `f` done to the table at a path. Tables on the way are made as needed. A dotted key may not reach into
    a table that a header opened; a path through a series goes to its last table. -/
def descend? (byKey : Bool) (f : Origin → List (String × Node) → Option Node) :
    List String → Node → Option Node
  | _, leaf _ => none
  | [], table origin entries => f origin entries
  | [], series complete entries =>
    match f .opened entries with
    | some (table _ entries) => some (series complete entries)
    | _ => none
  | k :: path, n => do
    let entries := match n with
      | table _ entries => entries
      | series _ entries => entries
      | leaf _ => []
    let child := (entries.lookup k).getD (.table (if byKey then .dotted else .implied) [])
    if byKey then
      if let table .opened _ := child then none
    let entries := put k (← descend? byKey f path child) entries
    match n with
    | table origin _ => some (table origin entries)
    | series complete _ => some (series complete entries)
    | leaf _ => none

/-- The table with a value assigned to a key, which must be new. The parts of the key but the last lead to a table
    that dotted keys have made. -/
def assign? (path : List String) (v : Value) (n : Node) : Option Node := do
  let key ← path.getLast?
  let way := path.dropLast
  n.descend? true (fun origin entries =>
    if (origin == .dotted) == way.isEmpty || (entries.lookup key).isSome then none
    else some (.table origin (put key (.leaf v) entries))) way

/-- The table with the table at a path opened by a header, which it must not have been before. -/
def openTable? (path : List String) (n : Node) : Option Node := do
  let key ← path.getLast?
  n.descend? false (fun origin entries =>
    match entries.lookup key with
    | none => some (.table origin (put key (.table .opened []) entries))
    | some (.table .implied inner) => some (.table origin (put key (.table .opened inner) entries))
    | some _ => none) path.dropLast

/-- The table with one more table in the series at a path. -/
def openSeries? (path : List String) (n : Node) : Option Node := do
  let key ← path.getLast?
  n.descend? false (fun origin entries =>
    match entries.lookup key with
    | none => some (.table origin (put key (.series [] []) entries))
    | some (.series complete last) =>
      some (.table origin (put key (.series (complete ++ [.table (entriesToTable last)]) []) entries))
    | some _ => none) path.dropLast

/-- The table with a value assigned to a key of the table at a path. -/
def assignAt? (header path : List String) (v : Value) (n : Node) : Option Node :=
  n.descend? false (fun origin entries => (table origin entries).assign? path v) header

end Node

end AuthProxy.Toml
