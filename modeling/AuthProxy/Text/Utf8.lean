/-!
# UTF-8

Byte strings read as UTF-8. A byte string falls into pieces: the characters it encodes, and between them
the stray bytes that belong to no character, cut at the first byte that cannot continue a character. Strict
decoding (`decode?`) refuses stray bytes; lenient decoding (`decodeLossy`) puts U+FFFD for each piece of them.
-/

namespace AuthProxy.Text

/-- A string of bytes, such as a file name or the value of a variable. -/
abbrev Bytes := List UInt8

/-- The UTF-8 encoding of a text. -/
def encodeUtf8 (s : List Char) : Bytes :=
  s.flatMap String.utf8EncodeChar

/-- What a byte string consists of: characters, and stray bytes between them. -/
inductive Piece where
  | scalar (c : Char)
  | stray (bytes : Bytes)
deriving Repr, DecidableEq

/-- A character of which some bytes have been read: how many are missing, the bounds of the next one, the
    value so far, and the bytes read. -/
structure Pending where
  missing : Nat
  low : Nat
  high : Nat
  value : Nat
  bytes : Bytes

/-- What a byte starts: a whole character, a longer one, or nothing. -/
def startByte (b : UInt8) : Piece ⊕ Pending :=
  let n := b.toNat
  if n < 0x80 then .inl (.scalar (Char.ofNat n))
  else if n < 0xC2 then .inl (.stray [b])
  else if n < 0xE0 then .inr ⟨1, 0x80, 0xBF, n - 0xC0, [b]⟩
  else if n < 0xF0 then
    .inr ⟨2, if n = 0xE0 then 0xA0 else 0x80, if n = 0xED then 0x9F else 0xBF, n - 0xE0, [b]⟩
  else if n < 0xF5 then
    .inr ⟨3, if n = 0xF0 then 0x90 else 0x80, if n = 0xF4 then 0x8F else 0xBF, n - 0xF0, [b]⟩
  else .inl (.stray [b])

/-- The pieces of a byte string that follows the bytes of a pending character, if there is one. -/
def piecesFrom : Option Pending → Bytes → List Piece
  | none, [] => []
  | some p, [] => [.stray p.bytes]
  | none, b :: r =>
    match startByte b with
    | .inl piece => piece :: piecesFrom none r
    | .inr p => piecesFrom (some p) r
  | some p, b :: r =>
    if p.low ≤ b.toNat ∧ b.toNat ≤ p.high then
      let value := p.value * 64 + (b.toNat - 0x80)
      if p.missing ≤ 1 then .scalar (Char.ofNat value) :: piecesFrom none r
      else piecesFrom (some ⟨p.missing - 1, 0x80, 0xBF, value, p.bytes ++ [b]⟩) r
    else
      match startByte b with
      | .inl piece => .stray p.bytes :: piece :: piecesFrom none r
      | .inr q => .stray p.bytes :: piecesFrom (some q) r

/-- The characters and stray bytes of a byte string, in order. -/
def pieces (bs : Bytes) : List Piece :=
  piecesFrom none bs

/-- The character a piece stands for, if it is one. -/
def Piece.scalar? : Piece → Option Char
  | .scalar c => some c
  | .stray _ => none

/-- The text that a byte string encodes, if it has no stray bytes. -/
def decodeUtf8? (bs : Bytes) : Option (List Char) :=
  (pieces bs).mapM Piece.scalar?

/-- The text of a byte string, with U+FFFD for each piece of stray bytes. -/
def decodeLossy (bs : Bytes) : List Char :=
  (pieces bs).map fun p => p.scalar?.getD '\uFFFD'

/-- The number of bytes of a text in UTF-8. -/
def utf8Length (s : List Char) : Nat :=
  s.foldl (fun n c => n + c.utf8Size) 0

end AuthProxy.Text
