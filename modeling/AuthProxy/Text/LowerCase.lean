import AuthProxy.Text.Ranges
import AuthProxy.Text.LowerCase.Table

/-!
# Lower case

The full lower-case mapping of a text: every character by itself, apart from `İ`, which becomes two, and a
capital sigma at the end of a word, which becomes `ς` there and `σ` elsewhere. On ASCII it is `Char.toLower`
(`lowerChar_ascii`).
-/

namespace AuthProxy.Text

/-- The lower-case partner of a character by the table, or the character itself. -/
def lowerByTable (c : Char) : Char :=
  match lowerRuns.find? fun (first, last, step, _) =>
      decide (first ≤ c.toNat) && decide (c.toNat ≤ last) && (c.toNat - first) % step == 0 with
  | some (first, _, _, target) => Char.ofNat (target + (c.toNat - first))
  | none => c

/-- The lower case of a character out of context. -/
def lowerChar (c : Char) : List Char :=
  if c.toNat < 0x80 then [c.toLower]
  else if c = 'İ' then ['i', '\u0307']
  else [lowerByTable c]

/-- The next character that is not case-ignorable is a cased one. -/
def meetsCased (s : List Char) : Bool :=
  match s.dropWhile fun c => inRanges caseIgnorableRanges c.toNat with
  | c :: _ => inRanges casedRanges c.toNat
  | [] => false

/-- The lower case of the text that follows `before`, which is given in reverse. -/
def lowerAfter (before : List Char) : List Char → List Char
  | [] => []
  | c :: r =>
    let here :=
      if c = 'Σ' then [if meetsCased before && !meetsCased r then 'ς' else 'σ'] else lowerChar c
    here ++ lowerAfter (c :: before) r

/-- The text in lower case. -/
def lowerCase (s : List Char) : List Char :=
  lowerAfter [] s

theorem lowerChar_ascii {c : Char} (h : c.toNat < 0x80) : lowerChar c = [c.toLower] := by
  simp [lowerChar, h]

theorem lowerAfter_ascii {s : List Char} (h : ∀ c ∈ s, c.toNat < 0x80) :
    ∀ before, lowerAfter before s = s.map Char.toLower := by
  induction s with
  | nil => intro before; rfl
  | cons c r ih =>
    intro before
    have hc : c.toNat < 0x80 := h c (by simp)
    have hs : c ≠ 'Σ' := fun he => absurd hc (by rw [he]; decide)
    rw [lowerAfter, if_neg hs, lowerChar_ascii hc, ih fun d hd => h d (by simp [hd])]
    rfl

/-- On an ASCII text the mapping is the one that core's `Char.toLower` gives. -/
theorem lowerCase_ascii {s : List Char} (h : ∀ c ∈ s, c.toNat < 0x80) :
    lowerCase s = s.map Char.toLower :=
  lowerAfter_ascii h []

end AuthProxy.Text
