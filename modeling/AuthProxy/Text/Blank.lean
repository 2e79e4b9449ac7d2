import AuthProxy.Text.Ranges

/-!
# Blank characters

The characters with the `White_Space` property, and cutting them off the ends of a text. U+200B, U+FEFF,
U+180E and U+001F are not among them. `trim_eq_self_iff` says which texts are left as they are.
-/

namespace AuthProxy.Text

/-- The 25 code points with the `White_Space` property. -/
def blankRanges : List (Nat × Nat) :=
  [(0x09, 0x0D), (0x20, 0x20), (0x85, 0x85), (0xA0, 0xA0), (0x1680, 0x1680), (0x2000, 0x200A),
   (0x2028, 0x2029), (0x202F, 0x202F), (0x205F, 0x205F), (0x3000, 0x3000)]

/-- A character with the `White_Space` property. -/
def isBlank (c : Char) : Bool :=
  inRanges blankRanges c.toNat

/-- The text without the blanks it starts with. -/
def trimStart (s : List Char) : List Char :=
  s.dropWhile isBlank

/-- The text without the blanks it ends with. -/
def trimEnd (s : List Char) : List Char :=
  (s.reverse.dropWhile isBlank).reverse

/-- The text without the blanks at either end. -/
def trim (s : List Char) : List Char :=
  trimEnd (trimStart s)

theorem dropWhile_eq_self_iff {p : Char → Bool} {s : List Char} :
    s.dropWhile p = s ↔ ∀ c, s.head? = some c → p c = false := by
  cases s with
  | nil => simp
  | cons c r =>
    rw [List.dropWhile_cons]
    constructor
    · intro h d hd
      cases hd
      split at h
      · have := congrArg List.length h
        have := (List.dropWhile_sublist p (l := r)).length_le
        simp at *
        omega
      · simpa using ‹¬p c = true›
    · intro h
      simp [h c rfl]

/-- A text is trimmed exactly when neither its first nor its last character is blank. -/
theorem trim_eq_self_iff {s : List Char} :
    trim s = s ↔ (∀ c, s.head? = some c → isBlank c = false) ∧
      ∀ c, s.getLast? = some c → isBlank c = false := by
  have hstart : ∀ t : List Char, (trimStart t).length ≤ t.length := fun t =>
    (List.dropWhile_sublist isBlank).length_le
  have hend : ∀ t : List Char, (trimEnd t).length ≤ t.length := fun t => by
    simpa [trimEnd] using (List.dropWhile_sublist isBlank (l := t.reverse)).length_le
  have hlast : ∀ t : List Char, trimEnd t = t ↔ ∀ c, t.getLast? = some c → isBlank c = false := by
    intro t
    rw [trimEnd, ← List.head?_reverse, ← dropWhile_eq_self_iff, ← List.reverse_inj, List.reverse_reverse]
  constructor
  · intro h
    have hs : trimStart s = s := by
      have h1 := hstart s
      have h2 := hend (trimStart s)
      have h3 : (trimStart s).length = s.length := by
        have := congrArg List.length h
        simp only [trim] at this
        omega
      exact (List.dropWhile_sublist isBlank).eq_of_length h3
    exact ⟨dropWhile_eq_self_iff.1 hs, (hlast s).1 (by rwa [trim, hs] at h)⟩
  · rintro ⟨h1, h2⟩
    rw [trim, show trimStart s = s from dropWhile_eq_self_iff.2 h1]
    exact (hlast s).2 h2

theorem not_isBlank_head_trimStart {s : List Char} {c : Char} (h : (trimStart s).head? = some c) :
    isBlank c = false := by
  have := List.head?_dropWhile_not isBlank s
  rwa [← trimStart, h] at this

/-- A trimmed text is left as it is. -/
theorem trim_trim (s : List Char) : trim (trim s) = trim s := by
  have hprefix : ∀ t : List Char, trimEnd t <+: t := fun t => by
    have := (List.dropWhile_suffix isBlank (l := t.reverse)).reverse
    rwa [List.reverse_reverse] at this
  refine trim_eq_self_iff.2 ⟨fun c hc => ?_, fun c hc => ?_⟩
  · obtain ⟨r, hr⟩ := hprefix (trimStart s)
    refine not_isBlank_head_trimStart (s := s) ?_
    rw [← hr, List.head?_append]
    rw [trim] at hc
    rw [hc]
    rfl
  · rw [trim, trimEnd, List.getLast?_reverse] at hc
    exact not_isBlank_head_trimStart hc

end AuthProxy.Text
