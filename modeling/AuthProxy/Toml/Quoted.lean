import AuthProxy.Number.Digit

/-!
# TOML strings

Reading and writing the four notations of a TOML string: in `"` or `'`, on one line or, with three quotes, on
several; escapes only between `"`. The reader takes one character at a time, `Stage` being what it has just seen, and
stops at the quotes that close the string. It is meant for documents that hold no control characters other than
tabs and line ends, which are refused as a whole beforehand. The writer takes the plainest notation that can hold
the text.
-/

namespace AuthProxy.Toml

open Number

/-- Two readings in a row: what was read comes in front of what follows. -/
def emit (s : List Char) (rest : Option (List Char × List Char)) : Option (List Char × List Char) :=
  rest.map fun (t, r) => (s ++ t, r)

/-- The character of a code point, if it has one. -/
def scalar? (n : Nat) : Option Char :=
  if n.isValidChar then some (Char.ofNat n) else none

/-- What a letter behind a backslash stands for. -/
def escaped? : Char → Option Char
  | 'b' => some '\x08'
  | 't' => some '\t'
  | 'n' => some '\n'
  | 'f' => some '\x0c'
  | 'r' => some '\r'
  | 'e' => some '\x1b'
  | '"' => some '"'
  | '\\' => some '\\'
  | _ => none

/-- How many hexadecimal digits follow a letter behind a backslash. -/
def codeLength? : Char → Option Nat
  | 'x' => some 2
  | 'u' => some 4
  | 'U' => some 8
  | _ => none

/-- Where the reader of a string stands. -/
inductive Stage where
  | plain
  /-- Behind a backslash. -/
  | escape
  /-- Within a code point with so many digits to come. -/
  | code (left value : Nat)
  /-- Behind a backslash that ends its line; `ended` says that the end of the line has been passed. -/
  | gap (ended : Bool)
  /-- Behind so many quotes, which may be the closing ones. -/
  | quotes (count : Nat)
deriving Repr, DecidableEq

/-- The stage behind a plain character, and the characters it adds to the string. -/
def plainStep (quote c : Char) : List Char × Stage :=
  if c = quote then ([], .quotes 1)
  else if c = '\\' ∧ quote = '"' then ([], .escape)
  else ([c], .plain)

/-- The stage behind a character of an escape, and the characters it adds to the string. -/
def escapeStep (multi : Bool) (c : Char) : Option (List Char × Stage) :=
  match escaped? c, codeLength? c with
  | some d, _ => some ([d], .plain)
  | none, some n => some ([], .code n 0)
  | none, none =>
    if multi ∧ (c = ' ' ∨ c = '\t' ∨ c = '\r') then some ([], .gap false)
    else if multi ∧ c = '\n' then some ([], .gap true)
    else none

/-- The stage behind a digit of a code point, and the characters it adds to the string. -/
def codeStep (left value : Nat) (c : Char) : Option (List Char × Stage) := do
  let value := value * 16 + (← hexDigit? c)
  if left ≤ 1 then some ([← scalar? value], .plain) else some ([], .code (left - 1) value)

/-- The rest of a string on one line, and what follows the quote that closes it. -/
def readLineString (quote : Char) : Stage → List Char → Option (List Char × List Char)
  | _, [] => none
  | stage, c :: r =>
    match stage with
    | .plain =>
      if c = quote then some ([], r)
      else if c = '\n' then none
      else
        let (s, stage) := plainStep quote c
        emit s (readLineString quote stage r)
    | .escape => (escapeStep false c).bind fun (s, stage) => emit s (readLineString quote stage r)
    | .code left value => (codeStep left value c).bind fun (s, stage) => emit s (readLineString quote stage r)
    | _ => none

/-- The rest of a string on several lines, and what follows the quotes that close it. Up to two quotes more than
    the closing three belong to the string. -/
def readLinesString (quote : Char) : Stage → List Char → Option (List Char × List Char)
  | .quotes count, [] => if 3 ≤ count then some (List.replicate (count - 3) quote, []) else none
  | _, [] => none
  | stage, c :: r =>
    match stage with
    | .plain =>
      let (s, stage) := plainStep quote c
      emit s (readLinesString quote stage r)
    | .escape => (escapeStep true c).bind fun (s, stage) => emit s (readLinesString quote stage r)
    | .code left value => (codeStep left value c).bind fun (s, stage) => emit s (readLinesString quote stage r)
    | .gap ended =>
      if c = ' ' ∨ c = '\t' ∨ c = '\r' then readLinesString quote (.gap ended) r
      else if c = '\n' then readLinesString quote (.gap true) r
      else if ended then
        let (s, stage) := plainStep quote c
        emit s (readLinesString quote stage r)
      else none
    | .quotes count =>
      if c = quote ∧ count < 5 then readLinesString quote (.quotes (count + 1)) r
      else if 3 ≤ count then some (List.replicate (count - 3) quote, c :: r)
      else
        let (s, stage) := plainStep quote c
        emit (List.replicate count quote ++ s) (readLinesString quote stage r)

/-- A text without the line end it starts with. -/
def dropLineEnd : List Char → List Char
  | '\n' :: r => r
  | '\r' :: '\n' :: r => r
  | s => s

/-- The string that a text starts with, in any notation, and what follows it. -/
def readString? : List Char → Option (List Char × List Char)
  | '"' :: '"' :: '"' :: r => readLinesString '"' .plain (dropLineEnd r)
  | '\'' :: '\'' :: '\'' :: r => readLinesString '\'' .plain (dropLineEnd r)
  | '"' :: r => readLineString '"' .plain r
  | '\'' :: r => readLineString '\'' .plain r
  | _ => none

/-- The notations of a string. -/
inductive Style where
  | basic | literal | basicLines | literalLines
deriving Repr, DecidableEq

/-- A control character other than the tab and the line feed: no notation holds it as itself. -/
def needsCode (c : Char) : Bool :=
  decide (c.toNat < 0x20) && c != '\t' && c != '\n' || decide (c.toNat = 0x7F)

/-- The length of the longest run of a character. -/
def longestRun (c : Char) (s : List Char) : Nat :=
  go 0 0 s
where
  go (best run : Nat) : List Char → Nat
    | [] => best
    | d :: r => if d = c then go (max best (run + 1)) (run + 1) r else go best 0 r

/-- The notation a text is written in: the first that can hold it as it is, else one with escapes. -/
def style (s : List Char) : Style :=
  let coded := s.any needsCode
  let lines := s.contains '\n'
  let backslash := s.contains '\\'
  if !coded && !backslash && !lines && !s.contains '"' then .basic
  else if !coded && !lines && !s.contains '\'' then .literal
  else if !coded && !backslash && decide (longestRun '"' s ≤ 2) then .basicLines
  else if !coded && decide (longestRun '\'' s ≤ 2) then .literalLines
  else if lines then .basicLines
  else .basic

/-- The four upper-case hexadecimal digits of a code. -/
def codeDigits (n : Nat) : List Char :=
  [n / 4096 % 16, n / 256 % 16, n / 16 % 16, n % 16].map fun d => (Nat.digitChar d).toUpper

/-- A character between double quotes, other than the quote and the line feed. -/
def writeEscaped (c : Char) : List Char :=
  if c = '\\' then ['\\', '\\']
  else if c = '\x08' then ['\\', 'b']
  else if c = '\t' then ['\\', 't']
  else if c = '\x0c' then ['\\', 'f']
  else if c = '\r' then ['\\', 'r']
  else if needsCode c then '\\' :: 'u' :: codeDigits c.toNat
  else [c]

/-- A text between double quotes on one line. -/
def writeLine : List Char → List Char
  | [] => []
  | c :: r =>
    (if c = '"' then ['\\', '"'] else if c = '\n' then ['\\', 'n'] else writeEscaped c) ++ writeLine r

/-- A text between three double quotes; `run` counts the quotes just before it, of which every third is escaped. -/
def writeLines (run : Nat) : List Char → List Char
  | [] => []
  | c :: r =>
    if c = '"' then
      if run = 2 then '\\' :: '"' :: writeLines 0 r else '"' :: writeLines (run + 1) r
    else if c = '\n' then '\n' :: writeLines 0 r
    else writeEscaped c ++ writeLines 0 r

/-- The line end behind the opening quotes, where the text has several lines. -/
def leadingLineEnd (s : List Char) : List Char :=
  if s.contains '\n' then ['\n'] else []

/-- The text as a TOML string in a given notation. -/
def writeIn (s : List Char) : Style → List Char
  | .basic => '"' :: writeLine s ++ ['"']
  | .literal => '\'' :: s ++ ['\'']
  | .basicLines => ['"', '"', '"'] ++ leadingLineEnd s ++ writeLines 0 s ++ ['"', '"', '"']
  | .literalLines => ['\'', '\'', '\''] ++ leadingLineEnd s ++ s ++ ['\'', '\'', '\'']

/-- The text as a TOML string. -/
def writeString (s : List Char) : List Char :=
  writeIn s (style s)

end AuthProxy.Toml
