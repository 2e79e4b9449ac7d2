import AuthProxy.Toml.DateTime
import AuthProxy.Toml.Node
import AuthProxy.Toml.Number
import AuthProxy.Toml.Quoted

/-!
# The statements of a TOML document

A document is a sequence of statements, each on a line of its own: the header of a table or of one more table of a
series, or an assignment to a key. This module reads the statements; what they make up is the matter of
`Toml.Document`. Arrays and inline tables nest to a depth of 80, and a key has at most 80 parts.
-/

namespace AuthProxy.Toml

/-- One statement of a document. -/
inductive Statement where
  /-- `[path]` -/
  | table (path : List String)
  /-- `[[path]]` -/
  | series (path : List String)
  /-- `path = value` -/
  | assign (path : List String) (value : Value)
deriving Repr

/-- How deep arrays and inline tables may nest, and how many parts a key may have. -/
def nestingLimit : Nat := 80

/-- A blank within a line. A carriage return is one, since it stands only in front of a line feed. -/
def isLineBlank (c : Char) : Bool :=
  c == ' ' || c == '\t' || c == '\r'

def skipBlanks (s : List Char) : List Char :=
  s.dropWhile isLineBlank

/-- The text behind blanks, line ends and comments; `comment` says that it starts within a comment. -/
def skipFill (comment : Bool) : List Char → List Char
  | [] => []
  | c :: r =>
    if comment then skipFill (c != '\n') r
    else if isLineBlank c || c == '\n' then skipFill false r
    else if c = '#' then skipFill true r
    else c :: r

/-- A character of a key without quotes. -/
def isBareKeyChar (c : Char) : Bool :=
  c.isAlphanum || c == '_' || c == '-'

/-- One part of a key, and what follows it. -/
def readKeyPart? (s : List Char) : Option (String × List Char) :=
  match s with
  | '"' :: r => (readLineString '"' .plain r).map fun (k, r) => (String.ofList k, r)
  | '\'' :: r => (readLineString '\'' .plain r).map fun (k, r) => (String.ofList k, r)
  | _ =>
    let k := s.takeWhile isBareKeyChar
    if k.isEmpty then none else some (String.ofList k, s.dropWhile isBareKeyChar)

/-- The parts of a key, of which there may be `room` more, and what follows it and the blanks behind it. -/
def readKeyParts? : (room : Nat) → List Char → Option (List String × List Char)
  | 0, _ => none
  | room + 1, s => do
    let (part, r) ← readKeyPart? s
    match skipBlanks r with
    | '.' :: r =>
      let (parts, r) ← readKeyParts? room (skipBlanks r)
      some (part :: parts, r)
    | r => some ([part], r)

/-- A key, and what follows it and the blanks behind it. -/
def readKey? (s : List Char) : Option (List String × List Char) :=
  readKeyParts? nestingLimit s

/-- A character of a number, a date or a word. -/
def isTokenChar (c : Char) : Bool :=
  c.isAlphanum || c == '_' || c == '-' || c == '+' || c == '.' || c == ':'

/-- The token that a text starts with, and what follows it. A date takes the time behind a space with it. -/
def readToken (s : List Char) : List Char × List Char :=
  let token := s.takeWhile isTokenChar
  let r := s.dropWhile isTokenChar
  match date? token, r with
  | some (_, []), ' ' :: c :: t =>
    if c.isDigit then
      (token ++ ' ' :: (c :: t).takeWhile isTokenChar, (c :: t).dropWhile isTokenChar)
    else (token, r)
  | _, _ => (token, r)

/-- The value that a token writes. -/
def tokenValue? (token : List Char) : Option Value :=
  if token = "true".toList then some (.flag true)
  else if token = "false".toList then some (.flag false)
  else
    match integer? token, float? token, dateTime? token with
    | some i, _, _ => some (.integer i)
    | none, some x, _ => some (.float x)
    | none, none, some t => some (.dateTime (String.ofList t))
    | none, none, none => none

mutual

/-- The value that a text starts with, and what follows it. Arrays and inline tables may nest `room` deep; the fuel is
    the length of the text. -/
def readValue? : (fuel room : Nat) → List Char → Option (Value × List Char)
  | 0, _, _ => none
  | fuel + 1, room, s =>
    match s with
    | '[' :: r =>
      if room = 0 then none
      else (readItems? fuel (room - 1) (skipFill false r)).map fun (items, r) => (.list items, r)
    | '{' :: r =>
      if room = 0 then none
      else (readEntries? fuel (room - 1) .empty (skipFill false r)).map fun (node, r) => (node.toValue, r)
    | '"' :: _ | '\'' :: _ => (readString? s).map fun (t, r) => (.text (String.ofList t), r)
    | _ =>
      let (token, r) := readToken s
      (tokenValue? token).map (·, r)

/-- The items of an array up to its bracket. -/
def readItems? : (fuel room : Nat) → List Char → Option (List Value × List Char)
  | 0, _, _ => none
  | fuel + 1, room, s =>
    match s with
    | ']' :: r => some ([], r)
    | _ => do
      let (v, r) ← readValue? fuel room s
      match skipFill false r with
      | ',' :: r =>
        let (vs, r) ← readItems? fuel room (skipFill false r)
        some (v :: vs, r)
      | ']' :: r => some ([v], r)
      | _ => none

/-- The entries of an inline table up to its brace, added to those read so far. -/
def readEntries? : (fuel room : Nat) → Node → List Char → Option (Node × List Char)
  | 0, _, _, _ => none
  | fuel + 1, room, node, s =>
    match s with
    | '\x7d' :: r => some (node, r)
    | _ => do
      let (path, r) ← readKey? s
      let (v, r) ← readValue? fuel room (skipBlanks (← expect? '=' r))
      let node ← node.assign? path v
      match skipFill false r with
      | ',' :: r => readEntries? fuel room node (skipFill false r)
      | '\x7d' :: r => some (node, r)
      | _ => none

end

/-- The statement that a line starts with, and what follows it. -/
def readStatement? (s : List Char) : Option (Statement × List Char) :=
  match s with
  | '[' :: '[' :: r => do
    let (path, r) ← readKey? (skipBlanks r)
    some (.series path, ← expect? ']' (← expect? ']' r))
  | '[' :: r => do
    let (path, r) ← readKey? (skipBlanks r)
    some (.table path, ← expect? ']' r)
  | _ => do
    let (path, r) ← readKey? s
    let r := skipBlanks (← expect? '=' r)
    let (v, r) ← readValue? (r.length + 1) nestingLimit r
    some (.assign path v, r)

/-- What follows the end of a line, past blanks and a comment; the text may end instead. -/
def endLine? (s : List Char) : Option (List Char) :=
  let r := skipBlanks s
  let r := match r with
    | '#' :: _ => r.dropWhile (· != '\n')
    | _ => r
  match r with
  | [] => some []
  | '\n' :: r => some r
  | _ => none

/-- The statements of a text; each takes at least a character, so that its length bounds their number. -/
def readStatements? : (fuel : Nat) → List Char → Option (List Statement)
  | 0, _ => none
  | fuel + 1, s =>
    match skipFill false s with
    | [] => some []
    | s => do
      let (statement, r) ← readStatement? s
      let rest ← readStatements? fuel (← endLine? r)
      some (statement :: rest)

/-- Whether a text may be a document: no control characters but tabs and line ends, and a line feed behind every
    carriage return. -/
def isDocumentText : List Char → Bool
  | [] => true
  | '\r' :: r => (match r with | '\n' :: _ => true | _ => false) && isDocumentText r
  | c :: r => (decide (0x20 ≤ c.toNat) || c == '\t' || c == '\n') && c != '\x7f' && isDocumentText r

/-- The statements of a document. -/
def statements? (s : List Char) : Option (List Statement) :=
  if isDocumentText s then readStatements? (s.length + 1) s else none

end AuthProxy.Toml
