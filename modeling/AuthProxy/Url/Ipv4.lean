import AuthProxy.Number.Digit
import AuthProxy.Text.Split
import AuthProxy.Url.Basic

/-!
# IPv4 addresses

A domain whose last part is a number must be an address as a whole: up to four numbers, decimal, octal behind `0` or
hexadecimal behind `0x`, of which the last fills the bytes that are left.
-/

namespace AuthProxy.Url

open Number Text

/-- The number that digits write in a base; no digits write zero. -/
def numberIn? (base : Nat) (s : List Char) : Option Nat :=
  s.foldlM (fun n c => (digitIn? base c).map (n * base + ·)) 0

/-- The number that a part of an address writes. -/
def ipv4Number? : List Char → Option Nat
  | [] => none
  | ['0'] => some 0
  | '0' :: c :: r => if c = 'x' ∨ c = 'X' then numberIn? 16 r else numberIn? 8 (c :: r)
  | s => numberIn? 10 s

/-- The parts of a domain; an empty last one does not count. -/
def domainParts (domain : List Char) : List (List Char) :=
  let parts := splitAt '.' domain
  if parts.length ≠ 1 ∧ parts.getLast? = some [] then parts.dropLast else parts

/-- The last part of a domain is a number, so that the domain is meant as an address. -/
def endsInNumber (domain : List Char) : Bool :=
  match (domainParts domain).getLast? with
  | some last => (!last.isEmpty && last.all Char.isDigit) || (ipv4Number? last).isSome
  | none => false

/-- The address that a domain writes. -/
def ipv4Address? (domain : List Char) : Option Nat := do
  let parts := domainParts domain
  if 4 < parts.length then none
  let numbers ← parts.mapM ipv4Number?
  let last ← numbers.getLast?
  let leading := numbers.dropLast
  let room := Nat.pow 256 (4 - leading.length)
  if leading.all (· < 256) ∧ last < room then
    some (leading.foldl (fun n x => n * 256 + x) 0 * room + last)
  else none

end AuthProxy.Url
