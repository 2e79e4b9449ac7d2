import AuthProxy.Url.Ipv4

/-!
# IPv6 addresses

Eight groups of up to four hexadecimal digits, between colons. Two colons stand once for groups of zero, and the last two
groups may be written as an IPv4 address in plain decimal.
-/

namespace AuthProxy.Url

open Number Text

/-- A number below 256 in decimal, with no leading zero. -/
def byte? (s : List Char) : Option Nat :=
  match s with
  | ['0'] => some 0
  | '0' :: _ | [] => none
  | s => (numberIn? 10 s).filter (· < 256)

/-- The two groups that an IPv4 address makes up. -/
def ipv4Groups? (s : List Char) : Option (List Nat) :=
  match (splitAt '.' s).mapM byte? with
  | some [a, b, c, d] => some [a * 256 + b, c * 256 + d]
  | _ => none

/-- The groups read so far, in order, and how many of them stand before the two colons. -/
structure Groups where
  groups : List Nat
  gap : Option Nat

namespace Groups

/-- The groups with more of them behind. -/
def append (g : Groups) (more : List Nat) : Groups :=
  { g with groups := g.groups ++ more }

/-- The groups with two colons behind them, which stand for one group at least. -/
def skip? (g : Groups) : Option Groups :=
  if g.gap.isSome then none else some ⟨g.groups ++ [0], some (g.groups.length + 1)⟩

/-- All eight groups, with zeros put in at the two colons. -/
def complete? (g : Groups) : Option (List Nat) :=
  match g.gap with
  | some k => some (g.groups.take k ++ List.replicate (8 - g.groups.length) 0 ++ g.groups.drop k)
  | none => if g.groups.length = 8 then some g.groups else none

end Groups

/-- The groups of a text, added to those read so far; the fuel is the length of the text. -/
def readGroups? : (fuel : Nat) → Groups → List Char → Option Groups
  | _, g, [] => some g
  | 0, _, _ => none
  | fuel + 1, g, c :: r => do
    let s := c :: r
    if 8 ≤ g.groups.length then none
    if c = ':' then return ← readGroups? fuel (← g.skip?) r
    let digits := (s.take 4).takeWhile fun c => (hexDigit? c).isSome
    let value ← numberIn? 16 digits
    match s.drop digits.length with
    | [] => some (g.append [value])
    | '.' :: _ => if digits.isEmpty ∨ 6 < g.groups.length then none else some (g.append (← ipv4Groups? s))
    | ':' :: d :: t => if digits.isEmpty then none else readGroups? fuel (g.append [value]) (d :: t)
    | _ => none

/-- The groups of the address that a text writes. -/
def ipv6Address? (s : List Char) : Option (List Nat) := do
  let g ← match s with
    | ':' :: ':' :: r => readGroups? s.length ⟨[0], some 1⟩ r
    | ':' :: _ | [] => none
    | _ => readGroups? s.length ⟨[], none⟩ s
  g.complete?

end AuthProxy.Url
