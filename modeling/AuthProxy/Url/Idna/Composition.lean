import AuthProxy.Text.Ranges
import AuthProxy.Url.Idna.CompositionTable
import AuthProxy.Url.Idna.Rows

/-!
# Canonical composition

The composed normal form of a text: every character is taken apart, combining marks are put into the order of their
classes, and what can be composed is composed again.
-/

namespace AuthProxy.Url.Idna

open Text

def decompositions : List Row := rowsOf decompositionRows

def compositions : List Row := rowsOf compositionRows

/-- The combining class of a character: zero, unless it attaches to the one before it. -/
def combiningClass (n : Nat) : Nat :=
  match combiningRanges.find? fun (first, last, _) => decide (first ≤ n) && decide (n ≤ last) with
  | some (_, _, k) => k
  | none => 0

/-- The number of the first Hangul syllable; they are laid out by lead, vowel and tail. -/
def hangulBase : Nat := 0xAC00

/-- The jamo of a Hangul syllable. -/
def decomposeHangul (n : Nat) : List Nat :=
  let i := n - hangulBase
  let tail := i % 28
  [0x1100 + i / 588, 0x1161 + i % 588 / 28] ++ if tail = 0 then [] else [0x11A7 + tail]

/-- The full decomposition of a character. -/
def decompose (n : Nat) : List Nat :=
  if n < 0xC0 then [n]
  else if hangulBase ≤ n ∧ n < hangulBase + 11172 then decomposeHangul n
  else (applyRows? decompositions n).getD [n]

/-- A mark put behind a text in reverse: before the marks with a greater class. -/
def insertMark (k n : Nat) : List Nat → List Nat
  | [] => [n]
  | m :: r => if k < combiningClass m then m :: insertMark k n r else n :: m :: r

/-- The text with its marks in order, in reverse, behind what is already in order. -/
def reorder (done : List Nat) : List Nat → List Nat
  | [] => done
  | n :: r =>
    let k := combiningClass n
    reorder (if k = 0 then n :: done else insertMark k n done) r

/-- The character that two compose to. -/
def composePair? (a b : Nat) : Option Nat :=
  if 0x1100 ≤ a ∧ a < 0x1113 ∧ 0x1161 ≤ b ∧ b < 0x1176 then
    some (hangulBase + ((a - 0x1100) * 21 + (b - 0x1161)) * 28)
  else if hangulBase ≤ a ∧ a < hangulBase + 11172 ∧ (a - hangulBase) % 28 = 0 ∧ 0x11A8 ≤ b ∧ b < 0x11C3 then
    some (a + (b - 0x11A7))
  else (compositions.find? fun row => row.targets == [a, b]).map (·.first)

/-- The composed text. `starter` is the last character that marks attach to, `marks` are the ones behind it that have
    not been composed with it, in reverse, and `blocked` is the class of the last of them. -/
def compose (starter : Option Nat) (marks : List Nat) (blocked : Option Nat) : List Nat → List Nat
  | [] => starter.toList ++ marks.reverse
  | n :: r =>
    let k := combiningClass n
    let free := match blocked with
      | none => true
      | some b => decide (b < k)
    match starter with
    | none => if k = 0 then compose (some n) [] none r else n :: compose none [] none r
    | some s =>
      match if free then composePair? s n else none with
      | some composed => compose (some composed) marks blocked r
      | none =>
        if k = 0 then s :: marks.reverse ++ compose (some n) [] none r
        else compose (some s) (n :: marks) (some k) r

/-- The composed normal form of a text. -/
def normalForm (s : List Char) : List Char :=
  if s.all (·.toNat < 0xC0) then s
  else
    let parts := (reorder [] (s.flatMap fun c => decompose c.toNat)).reverse
    (compose none [] none parts).map Char.ofNat

end AuthProxy.Url.Idna
