import AuthProxy.Toml.Statement

/-!
# TOML documents

What the statements of a document make up: each assignment goes into the table that the last header before it opened.
`parse?` reads a document; it does not say what is wrong with a text that is none.
-/

namespace AuthProxy.Toml

/-- The document that statements make up, added to `n`; assignments go into the table at `header`. -/
def build? (header : List String) (n : Node) : List Statement → Option Node
  | [] => some n
  | .table path :: r => do build? path (← n.openTable? path) r
  | .series path :: r => do build? path (← n.openSeries? path) r
  | .assign path v :: r => do build? header (← n.assignAt? header path v) r

/-- The entries of a document. A byte order mark in front is skipped. -/
def parse? (s : List Char) : Option Table := do
  let s := match s with
    | '\uFEFF' :: r => r
    | s => s
  match ← build? [] .empty (← statements? s) with
  | .table _ entries => some (Node.entriesToTable entries)
  | _ => none

end AuthProxy.Toml
