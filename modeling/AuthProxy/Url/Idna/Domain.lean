import AuthProxy.Text.Ranges
import AuthProxy.Url.Idna.Composition
import AuthProxy.Url.Idna.MappingTable
import AuthProxy.Url.Idna.Punycode
import AuthProxy.Url.Idna.ScriptTable

/-!
# Internationalised domain names

A domain is brought into normal form by the mapping table and canonical composition, and cut into labels; a label in
Punycode is decoded. Every label must start with something other than a mark, hold only characters in normal form and
place joiners where the script has a use for them; where a domain has right-to-left text, every label must have one
direction.
-/

namespace AuthProxy.Url.Idna

open Text

def mappings : List Row := rowsOf mappingRows

/-- What a character becomes in a domain, if it is allowed there. -/
def mapChar? (c : Char) : Option (List Char) :=
  let n := c.toNat
  if n < 0x80 then some [c.toLower]
  else if inRanges disallowedRanges n then none
  else if inRanges ignoredRanges n then some []
  else some (((applyRows? mappings n).getD [n]).map Char.ofNat)

/-- The normal form of a domain, if all its characters are allowed. -/
def mapDomain? (s : List Char) : Option (List Char) :=
  (s.mapM mapChar?).map fun parts => normalForm parts.flatten

/-- A letter that joins to the one behind it is the next one that joining does not pass over. -/
def meetsRange (rs : List (Nat × Nat)) (s : List Char) : Bool :=
  match s.dropWhile fun c => inRanges transparentRanges c.toNat with
  | c :: _ => inRanges rs c.toNat
  | [] => false

/-- The combining class of the signs that suppress a vowel. -/
def viramaClass : Nat := 9

/-- The joiners of a label have a use; `before` is what precedes it, in reverse. -/
def joinersFit (before : List Char) : List Char → Bool
  | [] => true
  | c :: r =>
    let behindVirama := match before with
      | b :: _ => combiningClass b.toNat == viramaClass
      | [] => false
    let fits :=
      if c = '\u200C' then
        behindVirama ||
          (meetsRange (leftJoiningRanges ++ dualJoiningRanges) before &&
            meetsRange (rightJoiningRanges ++ dualJoiningRanges) r)
      else if c = '\u200D' then behindVirama
      else true
    fits && joinersFit (c :: before) r

/-- How a character is written. -/
inductive Direction where
  | left | right | arabicNumber | europeanNumber | nonspacing | neutral | separator
deriving Repr, DecidableEq

def direction (c : Char) : Direction :=
  let n := c.toNat
  if inRanges rightRanges n then .right
  else if inRanges arabicNumberRanges n then .arabicNumber
  else if inRanges europeanNumberRanges n then .europeanNumber
  else if inRanges nonspacingRanges n then .nonspacing
  else if inRanges neutralRanges n then .neutral
  else if inRanges separatorRanges n then .separator
  else .left

/-- A label of a bidirectional domain has one direction: it starts with a letter of it, holds no letter of the other,
    and ends, marks aside, with a letter of it or a digit; from right to left, its digits are of one kind. -/
def hasOneDirection (label : List Char) : Bool :=
  let ds := label.map direction
  let last := (ds.reverse.dropWhile (· == .nonspacing)).head?
  match ds.head? with
  | none => true
  | some .left =>
    ds.all (fun d => d != .right && d != .arabicNumber && d != .separator) &&
      (last == some .left || last == some .europeanNumber)
  | some .right =>
    ds.all (fun d => d != .left && d != .separator) &&
      (last == some .right || last == some .arabicNumber || last == some .europeanNumber) &&
      !(ds.contains .arabicNumber && ds.contains .europeanNumber)
  | some _ => false

/-- The sign in front of a label in Punycode. -/
def punycodeSign : List Char := "xn--".toList

/-- A character that no domain holds, even where its label is ASCII. -/
def isForbidden (c : Char) : Bool :=
  decide (c.toNat ≤ 0x20) || c == '\x7f' || "%#/:<>?@[\\]^|".toList.contains c

/-- The label with its Punycode decoded, if it is well formed; the sign of Punycode stands in front of ASCII alone. -/
def decodeLabel? (label : List Char) : Option (List Char) := do
  if label.any isForbidden then none
  let ascii := label.all (·.toNat < 0x80)
  let decoded ←
    if label.take 4 == punycodeSign then do
      let code := label.drop 4
      if !ascii || 2000 < code.length then none
      let decoded ← decodePunycode? code
      if decoded.all (·.toNat < 0x80) ∨ mapDomain? decoded ≠ some decoded then none
      some decoded
    else if !ascii && 1000 < label.length then none
    else some label
  match decoded with
  | [] => some []
  | c :: _ =>
    if inRanges markRanges c.toNat || !joinersFit [] decoded then none else some decoded

/-- The normal form of a domain, if it is well formed. -/
def domain? (s : List Char) : Option (List Char) := do
  let mapped ← mapDomain? s
  let labels ← (splitAt '.' mapped).mapM decodeLabel?
  let bidirectional := labels.any fun l => l.any fun c =>
    direction c == .right || direction c == .arabicNumber
  if bidirectional && !labels.all hasOneDirection then none
  some (['.'].intercalate labels)

end AuthProxy.Url.Idna
