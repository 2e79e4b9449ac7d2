import AuthProxy.Number.Digit
import AuthProxy.Text.Alphanumeric

/-!
# Patterns of field values

A directive may ask for the value of a field to match a regular expression. All that a filter needs of an expression is
whether it is one. The expressions are the usual ones, with groups, named groups, flags, classes, and repetition with `*`,
`+` and `?`. What would need the tables of Unicode is refused: `\d`, `\s`, `\w`, `\p`, word boundaries, and letters under
the flag `i`. Behind the flag `-u` the ASCII meaning of the first ones is taken, and there a dot, which would split
characters, is refused. A pattern in a directive holds neither comma nor closing brace, so that a counted repetition
is never closed.
-/

namespace AuthProxy.Log.Pattern

open Number Text

/-- The flags that decide what is accepted: whether case is ignored, and whether characters are those of Unicode. -/
structure Mode where
  foldCase : Bool := false
  unicode : Bool := true

/-- What an escape or a character stands for. -/
inductive Item where
  | literal (code : Nat)
  /-- One of several characters, by a property. -/
  | set
  /-- A place between characters that depends on the kinds of both. -/
  | boundary
  /-- The start or the end of the text. -/
  | edge

/-- A character given by `count` hexadecimal digits, and the rest. -/
def hexItem? (count : Nat) (s : List Char) : Option (Item × List Char) := do
  let ds ← (s.take count).mapM hexDigit?
  let n := ds.foldl (fun n d => n * 16 + d) 0
  if ds.length = count ∧ n.isValidChar then some (.literal n, s.drop count) else none

/-- What an escape stands for, given what follows the backslash, and the rest. A sign of ASCII stands for itself, angle
    brackets apart. -/
def escape? : List Char → Option (Item × List Char)
  | [] => none
  | 'x' :: r => hexItem? 2 r
  | 'u' :: r => hexItem? 4 r
  | 'U' :: r => hexItem? 8 r
  | 'a' :: r => some (.literal 7, r)
  | 'f' :: r => some (.literal 12, r)
  | 't' :: r => some (.literal 9, r)
  | 'n' :: r => some (.literal 10, r)
  | 'r' :: r => some (.literal 13, r)
  | 'v' :: r => some (.literal 11, r)
  | 'z' :: r => some (.edge, r)
  | 'A' :: r => some (.edge, r)
  | c :: r =>
    if "dswDSW".toList.contains c then some (.set, r)
    else if "bB<>".toList.contains c then some (.boundary, r)
    else if c.toNat < 128 ∧ !c.isAlphanum then some (.literal c.toNat, r)
    else none

/-- Whether an item is accepted outside a class. -/
def Mode.accepts (m : Mode) : Item → Bool
  | .literal _ => !(m.foldCase && m.unicode)
  | .set | .boundary => !m.unicode
  | .edge => true

/-- An item of a class and the rest. -/
def classItem? (m : Mode) : List Char → Option (Item × List Char)
  | [] => none
  | '\\' :: r => do
    let (item, rest) ← escape? r
    match item with
    | .literal _ => some (item, rest)
    | .set => if m.unicode then none else some (item, rest)
    | .boundary | .edge => none
  | c :: r => if m.unicode ∨ c.toNat < 128 then some (.literal c.toNat, r) else none

/-- The names of the classes that are written as `[:name:]`. -/
def classNames : List (List Char) :=
  ["alnum", "alpha", "ascii", "blank", "cntrl", "digit", "graph", "lower", "print", "punct", "space", "upper", "word",
   "xdigit"].map String.toList

/-- The rest behind a named class, given what follows its opening bracket. -/
def namedClass? : List Char → Option (List Char)
  | ':' :: r =>
    let s := match r with
      | '^' :: r => r
      | r => r
    match s.dropWhile (· != ':') with
    | ':' :: ']' :: rest => if s.takeWhile (· != ':') ∈ classNames then some rest else none
    | _ => none
  | _ => none

/-- What is to be read of a class behind its opening bracket: a `^`, and then hyphens or a closing bracket, which stand for
    themselves there, are skipped. -/
def classStart (s : List Char) : List Char :=
  let s := match s with
    | '^' :: r => r
    | s => s
  match s with
  | ']' :: r => r
  | s => s.dropWhile (· == '-')

/-- The rest behind a class, in which `depth` inner classes are open. -/
def classRest? (m : Mode) : (fuel depth : Nat) → List Char → Option (List Char)
  | 0, _, _ => none
  | _, _, [] => none
  | fuel + 1, depth, ']' :: r => if depth = 0 then some r else classRest? m fuel (depth - 1) r
  | fuel + 1, depth, '[' :: r =>
    match namedClass? r with
    | some rest => classRest? m fuel depth rest
    | none => classRest? m fuel (depth + 1) (classStart r)
  | fuel + 1, depth, '&' :: '&' :: r => classRest? m fuel depth r
  | fuel + 1, depth, '-' :: '-' :: r => classRest? m fuel depth r
  | fuel + 1, depth, '~' :: '~' :: r => classRest? m fuel depth r
  | fuel + 1, depth, s => do
    let (first, rest) ← classItem? m s
    match rest with
    | '-' :: r =>
      if r.head? = some ']' ∨ r.head? = some '-' then classRest? m fuel depth rest
      else
        match first, ← classItem? m r with
        | .literal a, (.literal b, rest) => if a ≤ b then classRest? m fuel depth rest else none
        | _, _ => none
    | rest => classRest? m fuel depth rest

/-- The rest behind a class, given what follows its opening bracket. -/
def class? (m : Mode) (s : List Char) : Option (List Char) :=
  if m.unicode then if m.foldCase then none else classRest? m (s.length + 1) 0 (classStart s)
  else if s.head? = some '^' then none
  else classRest? m (s.length + 1) 0 (classStart s)

/-- The mode under flags; those behind a hyphen are taken off. -/
def Mode.withFlags (m : Mode) (flags : List Char) : Mode :=
  let on := flags.takeWhile (· != '-')
  let off := flags.dropWhile (· != '-')
  { foldCase := (m.foldCase || on.contains 'i') && !off.contains 'i'
    unicode := (m.unicode || on.contains 'u') && !off.contains 'u' }

/-- Whether a run of characters is a list of flags. -/
def isFlags (flags : List Char) : Bool :=
  flags.all "-imsux".toList.contains && decide flags.Nodup && flags.getLast? != some '-'

/-- Whether a text can name a group. -/
def isGroupName : List Char → Bool
  | [] => false
  | c :: r => (c == '_' || (isAlphanumeric c && !c.isDigit)) && r.all fun c => "_.[]".toList.contains c || isAlphanumeric c

/-- Where a scan stands: the mode, the modes to return to behind the open groups, the names of groups so far, and
    whether there is something to repeat. -/
structure State where
  mode : Mode := {}
  outer : List Mode := []
  names : List (List Char) := []
  repeatable : Bool := false

/-- Something to repeat has been read. -/
def State.read (st : State) : State :=
  { st with repeatable := true }

/-- A group begins, with flags. -/
def State.enter (st : State) (flags : List Char) : State :=
  { st with mode := st.mode.withFlags flags, outer := st.mode :: st.outer, repeatable := false }

/-- What follows an opening parenthesis and a question mark: the beginning of a group or flags for the rest of the one that
    is open; the state behind it and the rest. -/
def State.special? (st : State) (s : List Char) : Option (State × List Char) :=
  match s with
  | '<' :: r =>
    let name := r.takeWhile (· != '>')
    match r.dropWhile (· != '>') with
    | _ :: rest =>
      if isGroupName name ∧ name ∉ st.names then some ({ st.enter [] with names := name :: st.names }, rest) else none
    | [] => none
  | s =>
    let isEnd (c : Char) : Bool := c == ':' || c == ')'
    let flags := s.takeWhile (! isEnd ·)
    if !isFlags flags then none
    else
      match s.dropWhile (! isEnd ·) with
      | ':' :: rest => some (st.enter flags, rest)
      | _ :: rest =>
        if flags.isEmpty then none
        else some ({ st with mode := st.mode.withFlags flags, repeatable := false }, rest)
      | [] => none

/-- Whether the rest of a text completes a pattern. -/
def completes : (fuel : Nat) → State → List Char → Bool
  | 0, _, _ => false
  | _, st, [] => st.outer.isEmpty
  | fuel + 1, st, '(' :: '?' :: r =>
    match st.special? r with
    | some (st, rest) => completes fuel st rest
    | none => false
  | fuel + 1, st, '(' :: r => completes fuel (st.enter []) r
  | fuel + 1, st, ')' :: r =>
    match st.outer with
    | mode :: outer => completes fuel { st with mode, outer, repeatable := true } r
    | [] => false
  | fuel + 1, st, '|' :: r => completes fuel { st with repeatable := false } r
  | fuel + 1, st, '[' :: r =>
    match class? st.mode r with
    | some rest => completes fuel st.read rest
    | none => false
  | _, _, '{' :: _ => false
  | fuel + 1, st, '\\' :: r =>
    match escape? r with
    | some (item, rest) => st.mode.accepts item && completes fuel st.read rest
    | none => false
  | fuel + 1, st, c :: r =>
    if c = '*' ∨ c = '+' ∨ c = '?' then
      st.repeatable && completes fuel st.read (if r.head? = some '?' then r.tail else r)
    else if c = '.' then st.mode.unicode && completes fuel st.read r
    else if c = '^' ∨ c = '$' then completes fuel st.read r
    else st.mode.accepts (.literal c.toNat) && completes fuel st.read r

/-- Whether a text is a pattern. -/
def isPattern (s : List Char) : Bool :=
  completes (s.length + 1) {} s

end AuthProxy.Log.Pattern
