import AuthProxy.Number.Decimal
import AuthProxy.Text.Utf8

/-!
# Base64

The standard encoding of byte strings: groups of three bytes as four symbols, the last group filled up with `=`.
Decoding accepts encodings alone: the padding must be there and the bits it leaves over must be zero. What is wrong with
any other text is told by one of four causes.
-/

namespace AuthProxy.Secret

open Number Text

/-- The sign that fills up the last group. -/
def padding : UInt8 := 61

/-- The symbol of a number below 64. -/
def symbol (n : Nat) : UInt8 :=
  if n < 26 then UInt8.ofNat (65 + n)
  else if n < 52 then UInt8.ofNat (97 + (n - 26))
  else if n < 62 then UInt8.ofNat (48 + (n - 52))
  else if n = 62 then 43
  else 47

/-- The number of a symbol. -/
def symbolValue? (b : UInt8) : Option Nat :=
  let n := b.toNat
  if 65 ≤ n ∧ n ≤ 90 then some (n - 65)
  else if 97 ≤ n ∧ n ≤ 122 then some (n - 97 + 26)
  else if 48 ≤ n ∧ n ≤ 57 then some (n - 48 + 52)
  else if n = 43 then some 62
  else if n = 47 then some 63
  else none

theorem symbolValue?_symbol {n : Nat} (h : n < 64) : symbolValue? (symbol n) = some n := by
  revert n
  decide

theorem symbolValue?_padding : symbolValue? padding = none := rfl

/-- Why a text is not base64; offsets count bytes. -/
inductive Malformed where
  | symbol (byte : UInt8) (offset : Nat)
  | length (n : Nat)
  | lastSymbol (byte : UInt8) (offset : Nat)
  | badPadding
deriving Repr, DecidableEq

/-- What is wrong with a text, in words. -/
def Malformed.message : Malformed → List Char
  | symbol b i => "Invalid symbol ".toList ++ decimal b.toNat ++ ", offset ".toList ++ decimal i ++ ['.']
  | length n => "Invalid input length: ".toList ++ decimal n
  | lastSymbol b i =>
    "Invalid last symbol ".toList ++ decimal b.toNat ++ ", offset ".toList ++ decimal i ++ ['.']
  | badPadding => "Invalid padding".toList

/-- The encoding of a byte string. -/
def encode : Bytes → Bytes
  | [] => []
  | [a] =>
    let n := a.toNat * 16
    [symbol (n / 64), symbol (n % 64), padding, padding]
  | [a, b] =>
    let n := (a.toNat * 256 + b.toNat) * 4
    [symbol (n / 4096), symbol (n / 64 % 64), symbol (n % 64), padding]
  | a :: b :: c :: r =>
    let n := (a.toNat * 256 + b.toNat) * 256 + c.toNat
    symbol (n / 262144) :: symbol (n / 4096 % 64) :: symbol (n / 64 % 64) :: symbol (n % 64) :: encode r

/-- The number of a symbol at an offset. -/
def valueAt (offset : Nat) (b : UInt8) : Except Malformed Nat :=
  match symbolValue? b with
  | some n => .ok n
  | none => .error (.symbol b offset)

/-- The three bytes of a group of four symbols. -/
def decodeGroup (offset : Nat) (a b c d : UInt8) : Except Malformed Bytes := do
  let n := (((← valueAt offset a) * 64 + (← valueAt (offset + 1) b)) * 64 + (← valueAt (offset + 2) c)) * 64 +
    (← valueAt (offset + 3) d)
  .ok [UInt8.ofNat (n / 65536), UInt8.ofNat (n / 256), UInt8.ofNat n]

/-- The numbers of the symbols of the last group, and how much padding follows them; `index` is the place in the group
    and `pads` the padding so far. -/
def scanLast (offset : Nat) : (index pads : Nat) → Bytes → Except Malformed (List Nat × Nat)
  | _, pads, [] => .ok ([], pads)
  | index, pads, b :: r =>
    if b = padding then
      if index < 2 then .error (.symbol b (offset + index)) else scanLast offset (index + 1) (pads + 1) r
    else if 0 < pads then .error (.symbol padding (offset + index - pads))
    else do
      let n ← valueAt (offset + index) b
      let (ns, pads) ← scanLast offset (index + 1) pads r
      .ok (n :: ns, pads)

/-- The bytes of the last group, which may be padded. -/
def decodeLast (offset : Nat) (group : Bytes) : Except Malformed Bytes := do
  let (ns, pads) ← scanLast offset 0 0 group
  if ns.length < 2 then .error (.length (offset + ns.length))
  else if ns.length + pads ≠ 4 then .error .badPadding
  else
    let last : Malformed := .lastSymbol (group.getD (ns.length - 1) 0) (offset + (ns.length - 1))
    match ns with
    | [a, b] =>
      let n := a * 64 + b
      if n % 16 ≠ 0 then .error last else .ok [UInt8.ofNat (n / 16)]
    | [a, b, c] =>
      let n := (a * 64 + b) * 64 + c
      if n % 4 ≠ 0 then .error last else .ok [UInt8.ofNat (n / 1024), UInt8.ofNat (n / 4)]
    | a :: b :: c :: d :: _ =>
      let n := ((a * 64 + b) * 64 + c) * 64 + d
      .ok [UInt8.ofNat (n / 65536), UInt8.ofNat (n / 256), UInt8.ofNat n]
    | _ => .ok []

/-- The bytes of a text that follows `offset` others; only its last group may be padded. -/
def decodeFrom (offset : Nat) : Bytes → Except Malformed Bytes
  | a :: b :: c :: d :: r =>
    if r.isEmpty then decodeLast offset [a, b, c, d]
    else do
      let first ← decodeGroup offset a b c d
      let rest ← decodeFrom (offset + 4) r
      .ok (first ++ rest)
  | group => decodeLast offset group

/-- The byte string that a text encodes. A single byte behind the last whole group that is no symbol is reported before
    all else. -/
def decode (s : Bytes) : Except Malformed Bytes :=
  match s.getLast? with
  | none => .ok []
  | some b =>
    if s.length % 4 = 1 ∧ b ≠ padding ∧ symbolValue? b = none then .error (.symbol b (s.length - 1))
    else decodeFrom 0 s

end AuthProxy.Secret
