import AuthProxy.Text.Invisible
import AuthProxy.Text.Utf8

/-!
# Quoted texts

A value that appears in a message is shown in double quotes, with escapes for the quote, the backslash, the
usual controls, and every character that would not be seen. Names that are byte strings are shown the same way,
a byte that belongs to no character as `\xFF`.
-/

namespace AuthProxy.Text

/-- The digits of a number in a base up to sixteen, with lower-case letters. -/
def digitsBase (base n : Nat) : List Char :=
  Nat.toDigits base n

/-- How a character stands in a quoted text. -/
def quoteChar (c : Char) : List Char :=
  if c = '"' then ['\\', '"']
  else if c = '\\' then ['\\', '\\']
  else if c = '\n' then ['\\', 'n']
  else if c = '\r' then ['\\', 'r']
  else if c = '\t' then ['\\', 't']
  else if c = '\x00' then ['\\', '0']
  else if isInvisible c then "\\u\x7b".toList ++ digitsBase 16 c.toNat ++ ['\x7d']
  else [c]

/-- The text in quotes. -/
def quote (s : List Char) : List Char :=
  '"' :: s.flatMap quoteChar ++ ['"']

/-- A stray byte in a quoted name: `\x` and two upper-case digits. -/
def quoteByte (b : UInt8) : List Char :=
  '\\' :: 'x' :: [b.toNat / 16, b.toNat % 16].map fun d => (Nat.digitChar d).toUpper

/-- How a piece of a byte string stands in a quoted name. -/
def quotePiece : Piece → List Char
  | .scalar c => quoteChar c
  | .stray bytes => bytes.flatMap quoteByte

/-- A byte string in quotes. -/
def quoteBytes (bs : Bytes) : List Char :=
  '"' :: (pieces bs).flatMap quotePiece ++ ['"']

end AuthProxy.Text
