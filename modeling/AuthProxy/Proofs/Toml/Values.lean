import AuthProxy.Proofs.Text.Character
import AuthProxy.Proofs.Toml.Quoted
import AuthProxy.Toml.Statement
import AuthProxy.Toml.Writer

/-!
# Values read back

Every notation that fields are written in is read as the value that it writes (`WritesValue`): strings, decimal numbers, the words
for true and false, and lists of strings. What follows must be able to follow a value, which the reader of a number looks
for.
-/

namespace AuthProxy.Toml

open Number Text

/-- What follows a value: the end of its line, or in a list a comma or the closing bracket. -/
def FollowsValue (r : List Char) : Prop :=
  ∃ c t, r = c :: t ∧ (c = '\n' ∨ c = ',' ∨ c = ']')

theorem FollowsValue.unquoted {r : List Char} (h : FollowsValue r) : Unquoted r := by
  obtain ⟨c, t, rfl, h⟩ := h
  intro d hd
  cases hd
  rcases h with rfl | rfl | rfl <;> decide

/-- A text that writes a value, in a place where nothing is skipped in front of it. -/
structure WritesValue (t : List Char) (v : Value) : Prop where
  read {fuel room : Nat} {r : List Char} : t.length < fuel → 0 < room → FollowsValue r →
    readValue? fuel room (t ++ r) = some (v, r)
  head {c : Char} : t.head? = some c → isLineBlank c = false
  nonempty : t ≠ []
  printable : Printable t

/-! ## Strings -/

/-- A string is read wherever a value is. -/
theorem readValue?_writeString {fuel room : Nat} (s : List Char) {r : List Char} (hr : Unquoted r) :
    readValue? (fuel + 1) room (writeString s ++ r) = some (.text (String.ofList s), r) := by
  have hread := readString?_writeString s hr
  obtain ⟨t, ht | ht⟩ := writeString_head s
  · rw [ht, List.cons_append] at hread ⊢
    rw [readValue?, hread]
    rfl
  · rw [ht, List.cons_append] at hread ⊢
    rw [readValue?, hread]
    rfl

theorem writesValue_string (s : String) : WritesValue (writeString s.toList) (.text s) where
  read := by
    intro fuel room r hfuel _ hr
    obtain ⟨fuel, rfl⟩ : ∃ n, fuel = n + 1 := ⟨fuel - 1, by omega⟩
    rw [readValue?_writeString _ hr.unquoted, String.ofList_toList]
  head := by
    intro c hc
    obtain ⟨t, ht | ht⟩ := writeString_head s.toList <;> rw [ht] at hc <;> cases hc <;> decide
  nonempty := by
    obtain ⟨t, ht | ht⟩ := writeString_head s.toList <;> rw [ht] <;> exact List.cons_ne_nil _ _
  printable := printable_writeString _

/-! ## Tokens -/

/-- A token ends where a value is followed. -/
theorem readToken_append {t r : List Char} (ht : ∀ c ∈ t, isTokenChar c = true) (hr : FollowsValue r) :
    readToken (t ++ r) = (t, r) := by
  obtain ⟨c, u, rfl, hc⟩ := hr
  have hstop : isTokenChar c = false := by
    rcases hc with rfl | rfl | rfl <;> decide
  have htake : (t ++ c :: u).takeWhile isTokenChar = t := by
    rw [List.takeWhile_append_of_pos ht, List.takeWhile_cons_of_neg (Bool.eq_false_iff.1 hstop), List.append_nil]
  have hdrop : (t ++ c :: u).dropWhile isTokenChar = c :: u := by
    rw [List.dropWhile_append_of_pos ht, List.dropWhile_cons_of_neg (Bool.eq_false_iff.1 hstop)]
  unfold readToken
  simp only [htake, hdrop]
  split
  next he =>
    cases he
    rcases hc with h | h | h <;> exact absurd h (by decide)
  · rfl

theorem readValue?_token {fuel room : Nat} {c : Char} {t r : List Char} {v : Value}
    (hc : c ≠ '[' ∧ c ≠ '\x7b' ∧ c ≠ '"' ∧ c ≠ '\'') (ht : ∀ x ∈ c :: t, isTokenChar x = true) (hr : FollowsValue r)
    (hv : tokenValue? (c :: t) = some v) : readValue? (fuel + 1) room (c :: t ++ r) = some (v, r) := by
  have htoken := readToken_append ht hr
  obtain ⟨h1, h2, h3, h4⟩ := hc
  rw [List.cons_append] at htoken ⊢
  unfold readValue?
  split
  next he => exact absurd (List.cons.inj he).1 h1
  next he => exact absurd (List.cons.inj he).1 h2
  next he => exact absurd (List.cons.inj he).1 h3
  next he => exact absurd (List.cons.inj he).1 h4
  · rw [htoken]
    dsimp only
    rw [hv]
    rfl

theorem isTokenChar_of_isAlphanum {c : Char} (h : c.isAlphanum = true) : isTokenChar c = true := by
  simp [isTokenChar, h]

/-- A word or a number is a token; it holds no sign that starts another value. -/
theorem writesValue_token {t : List Char} {v : Value} (hne : t ≠ []) (ht : ∀ c ∈ t, c.isAlphanum = true)
    (hv : tokenValue? t = some v) : WritesValue t v where
  read := by
    intro fuel room r hfuel _ hr
    obtain ⟨fuel, rfl⟩ : ∃ n, fuel = n + 1 := ⟨fuel - 1, by omega⟩
    obtain ⟨c, t, rfl⟩ := List.exists_cons_of_ne_nil hne
    have hc := ht c (by simp)
    refine readValue?_token ?_ (fun x hx => isTokenChar_of_isAlphanum (ht x hx)) hr hv
    refine ⟨?_, ?_, ?_, ?_⟩ <;> rintro rfl <;> exact absurd hc (by decide)
  head := by
    intro c hc
    have hc := ht c (List.mem_of_mem_head? hc)
    simp only [isLineBlank, Bool.or_eq_false_iff, beq_eq_false_iff_ne, ne_eq]
    refine ⟨⟨?_, ?_⟩, ?_⟩ <;> rintro rfl <;> exact absurd hc (by decide)
  nonempty := hne
  printable := by
    intro c hc
    have hcode := isAlphanum_iff.1 (ht c hc)
    simp only [needsCode, Bool.or_eq_false_iff, Bool.and_eq_false_iff, decide_eq_false_iff_not]
    omega

theorem writesValue_flag (b : Bool) : WritesValue (if b then "true".toList else "false".toList) (.flag b) := by
  cases b with
  | true => exact writesValue_token (by decide) (List.all_eq_true.1 (by decide)) rfl
  | false => exact writesValue_token (by decide) (List.all_eq_true.1 (by decide)) rfl

/-! ## Decimal numbers -/

/-- Digits stand for themselves. -/
theorem moreDigits?_eq_self {ds : List Char} (h : ∀ c ∈ ds, c.isDigit = true) :
    moreDigits? Char.isDigit ds = some ds := by
  induction ds with
  | nil => rfl
  | cons c ds ih =>
    obtain ⟨hc, hds⟩ := List.forall_mem_cons.1 h
    unfold moreDigits?
    split
    next he => cases he
    next he =>
      cases he
      exact absurd hc (by decide)
    next he =>
      cases he
      rw [if_pos hc, ih hds]
      rfl

/-- Only zero is written with a zero in front. -/
theorem eq_zero_of_decimal {n : Nat} {r : List Char} (h : decimal n = '0' :: r) : n = 0 := by
  induction n using Nat.strongRecOn generalizing r with
  | ind n ih =>
    rw [decimal, Nat.toDigits_eq_if (by decide)] at h
    split at h
    next hlt =>
      have hall : ∀ d < 10, Nat.digitChar d = '0' → d = 0 := by
        decide
      exact hall n hlt (List.cons.inj h).1
    next hge =>
      obtain ⟨c, ds, hds⟩ := List.exists_cons_of_ne_nil (decimal_ne_nil (n / 10))
      rw [← decimal, hds, List.cons_append] at h
      rw [(List.cons.inj h).1] at hds
      have := ih (n / 10) (by omega) hds
      omega

theorem wholeDigits?_decimal (n : Nat) : wholeDigits? (decimal n) = some (decimal n) := by
  have hdigits : digits? Char.isDigit (decimal n) = some (decimal n) := by
    obtain ⟨c, ds, hds⟩ := List.exists_cons_of_ne_nil (decimal_ne_nil n)
    have hall : ∀ x ∈ c :: ds, x.isDigit = true := fun x hx => isDigit_of_mem_decimal (hds ▸ hx)
    obtain ⟨hc, hrest⟩ := List.forall_mem_cons.1 hall
    rw [hds, digits?, if_pos hc, moreDigits?_eq_self hrest]
    rfl
  rw [wholeDigits?, hdigits]
  split
  next hds =>
    have hzero := eq_zero_of_decimal (Option.some.inj hds)
    rw [hzero] at hds
    cases hds
  · rfl

theorem ofDigits_eq_ofDigitChars {ds : List Char} (h : ∀ c ∈ ds, c.isDigit = true) :
    ∀ n, ds.foldl (fun n c => n * 10 + (digitIn? 10 c).getD 0) n = Nat.ofDigitChars 10 ds n := by
  induction ds with
  | nil => exact fun n => by rw [List.foldl_nil, Nat.ofDigitChars_nil]
  | cons c ds ih =>
    intro n
    obtain ⟨hc, hds⟩ := List.forall_mem_cons.1 h
    rw [List.foldl_cons, Nat.ofDigitChars_cons, ih hds, digitIn?_of_isDigit hc, Option.getD_some, Nat.mul_comm n 10]

theorem integer?_decimal {n : Nat} (hn : n < 2 ^ 128) : integer? (decimal n) = some (n : Int) := by
  have hdigit : ∀ {c r}, decimal n = c :: r → c.isDigit = true := fun h => isDigit_of_mem_decimal (n := n) (by simp [h])
  have hsecond : ∀ {c d r}, decimal n = c :: d :: r → d.isDigit = true := fun h =>
    isDigit_of_mem_decimal (n := n) (by simp [h])
  have hsign : takeSign (decimal n) = (false, decimal n) := by
    unfold takeSign
    split
    next he => exact absurd (hdigit he) (by decide)
    next he => exact absurd (hdigit he) (by decide)
    · rfl
  have hvalue : ofDigits 10 (decimal n) = n := by
    rw [ofDigits, ofDigits_eq_ofDigitChars fun c hc => isDigit_of_mem_decimal hc]
    exact Nat.ofDigitChars_ten_toDigits
  unfold integer?
  split
  next he => exact absurd (hsecond he) (by decide)
  next he => exact absurd (hsecond he) (by decide)
  next he => exact absurd (hsecond he) (by decide)
  · have hfit : -2 ^ 127 ≤ (n : Int) ∧ (n : Int) < 2 ^ 128 := ⟨by omega, by omega⟩
    rw [hsign]
    dsimp only
    rw [wholeDigits?_decimal, Option.map_some, if_neg Bool.false_ne_true, hvalue, Option.bind_eq_bind,
      Option.bind_some, if_pos hfit]

theorem writesValue_decimal {n : Nat} (hn : n < 2 ^ 128) : WritesValue (decimal n) (.integer n) := by
  have halnum : ∀ c ∈ decimal n, c.isAlphanum = true := fun c hc => by
    rw [Char.isAlphanum, isDigit_of_mem_decimal hc, Bool.or_true]
  have hword : ∀ w : List Char, (∃ c ∈ w, c.isDigit = false) → decimal n ≠ w := by
    rintro w ⟨c, hc, hd⟩ rfl
    rw [isDigit_of_mem_decimal hc] at hd
    cases hd
  apply writesValue_token (decimal_ne_nil n) halnum
  rw [tokenValue?, if_neg (hword _ ⟨'t', by decide, by decide⟩), if_neg (hword _ ⟨'f', by decide, by decide⟩),
    integer?_decimal hn]

/-! ## Lists -/

/-- The items of a list of strings, between its brackets. -/
def itemsText (xs : List String) : List Char :=
  [',', ' '].intercalate (xs.map fun x => writeString x.toList)

theorem itemsText_singleton (x : String) : itemsText [x] = writeString x.toList :=
  List.intercalate_singleton

theorem itemsText_cons_cons (x y : String) (xs : List String) :
    itemsText (x :: y :: xs) = writeString x.toList ++ ',' :: ' ' :: itemsText (y :: xs) := by
  rw [itemsText, List.map_cons, List.map_cons, List.intercalate_cons_cons, List.append_assoc]
  rfl

theorem writeString_append_head (s r : List Char) : ∃ c t, writeString s ++ r = c :: t ∧ (c = '"' ∨ c = '\'') := by
  obtain ⟨t, ht | ht⟩ := writeString_head s
  · exact ⟨_, _, by rw [ht, List.cons_append], .inl rfl⟩
  · exact ⟨_, _, by rw [ht, List.cons_append], .inr rfl⟩

/-- Nothing is skipped in front of the items of a list. -/
theorem skipFill_itemsText (xs : List String) (r : List Char) :
    skipFill false (itemsText xs ++ ']' :: r) = itemsText xs ++ ']' :: r := by
  have hstring : ∀ s r : List Char, skipFill false (writeString s ++ r) = writeString s ++ r := by
    intro s r
    obtain ⟨c, t, ht, hc⟩ := writeString_append_head s r
    rw [ht]
    rcases hc with rfl | rfl <;> rfl
  match xs with
  | [] => rfl
  | [x] => rw [itemsText_singleton, hstring]
  | x :: y :: xs => rw [itemsText_cons_cons, List.append_assoc, hstring]

theorem unquoted_cons {c : Char} (h : c ≠ '"' ∧ c ≠ '\'') (r : List Char) : Unquoted (c :: r) := by
  intro d hd
  cases hd
  exact h

/-- The last item of a list. -/
theorem readItems?_last {fuel room : Nat} {c : Char} {t r : List Char} {v : Value} (hc : c ≠ ']')
    (hv : readValue? fuel room (c :: t) = some (v, ']' :: r)) :
    readItems? (fuel + 1) room (c :: t) = some ([v], r) := by
  rw [readItems?, hv]
  · rfl
  · exact fun r h => hc (List.cons.inj h).1

/-- An item with others behind it. -/
theorem readItems?_comma {fuel room : Nat} {c : Char} {t r r' : List Char} {v : Value} {vs : List Value} (hc : c ≠ ']')
    (hv : readValue? fuel room (c :: t) = some (v, ',' :: r))
    (hvs : readItems? fuel room (skipFill false r) = some (vs, r')) :
    readItems? (fuel + 1) room (c :: t) = some (v :: vs, r') := by
  have hfill : skipFill false (',' :: r) = ',' :: r := rfl
  rw [readItems?, hv]
  · simp only [Option.bind_eq_bind, Option.bind_some, hfill, hvs]
  · exact fun r h => hc (List.cons.inj h).1

/-- **A list of strings is read** string by string, up to its bracket. -/
theorem readItems?_itemsText (room : Nat) (xs : List String) (r : List Char) : ∀ {fuel : Nat}, xs.length < fuel →
    readItems? (fuel + 1) room (itemsText xs ++ ']' :: r) = some (xs.map .text, r) := by
  induction xs with
  | nil =>
    intro fuel _
    rw [itemsText, List.map_nil, List.intercalate_nil, List.nil_append, readItems?]
    rfl
  | cons x xs ih =>
    intro fuel hfuel
    rw [List.length_cons] at hfuel
    obtain ⟨fuel, rfl⟩ : ∃ n, fuel = n + 1 := ⟨fuel - 1, by omega⟩
    have hx : ∀ u, Unquoted u → readValue? (fuel + 1) room (writeString x.toList ++ u) = some (.text x, u) := by
      intro u hu
      rw [readValue?_writeString x.toList hu, String.ofList_toList]
    cases xs with
    | nil =>
      rw [itemsText_singleton]
      have hread := hx (']' :: r) (unquoted_cons (by decide) r)
      obtain ⟨c, t, ht, hc⟩ := writeString_append_head x.toList (']' :: r)
      rw [ht] at hread ⊢
      exact readItems?_last (by rcases hc with rfl | rfl <;> decide) hread
    | cons y xs =>
      rw [itemsText_cons_cons, List.append_assoc]
      have hread := hx (',' :: ' ' :: itemsText (y :: xs) ++ ']' :: r) (unquoted_cons (by decide) _)
      obtain ⟨c, t, ht, hc⟩ := writeString_append_head x.toList (',' :: ' ' :: itemsText (y :: xs) ++ ']' :: r)
      rw [ht] at hread ⊢
      refine readItems?_comma (by rcases hc with rfl | rfl <;> decide) hread ?_
      change readItems? (fuel + 1) room (skipFill false (itemsText (y :: xs) ++ ']' :: r)) = _
      rw [skipFill_itemsText]
      exact ih (by omega)

/-- Every item takes at least a character. -/
theorem length_le_itemsText (xs : List String) : xs.length ≤ (itemsText xs).length := by
  match xs with
  | [] => exact Nat.zero_le _
  | [x] =>
    rw [itemsText_singleton]
    exact List.length_pos_iff.2 (writesValue_string x).nonempty
  | x :: y :: xs =>
    have := length_le_itemsText (y :: xs)
    simp only [itemsText_cons_cons, List.length_append, List.length_cons] at this ⊢
    omega

theorem printable_itemsText (xs : List String) : Printable (itemsText xs) := by
  match xs with
  | [] => exact printable_nil
  | [x] =>
    rw [itemsText_singleton]
    exact printable_writeString _
  | x :: y :: xs =>
    rw [itemsText_cons_cons]
    exact (printable_writeString _).append (.cons (by decide) (.cons (by decide) (printable_itemsText (y :: xs))))

theorem writesValue_texts (xs : List String) : WritesValue (writeTexts xs) (.list (xs.map .text)) where
  read := by
    intro fuel room r hfuel hroom _
    have hlength := length_le_itemsText xs
    change ('[' :: itemsText xs ++ [']']).length < fuel at hfuel
    rw [List.length_append, List.length_cons, List.length_singleton] at hfuel
    obtain ⟨fuel, rfl⟩ : ∃ n, fuel = n + 2 := ⟨fuel - 2, by omega⟩
    change readValue? (fuel + 2) room ('[' :: itemsText xs ++ [']'] ++ r) = _
    rw [List.append_assoc, List.cons_append, List.singleton_append, readValue?, if_neg (by omega), skipFill_itemsText,
      readItems?_itemsText _ xs r (by omega)]
    rfl
  head := by
    intro c hc
    cases hc
    decide
  nonempty := List.cons_ne_nil _ _
  printable := (Printable.cons (by decide) (printable_itemsText xs)).append (.cons (by decide) printable_nil)

/-! ## The values of fields -/

/-- The value that stands for one of a kind, if it is to be written. -/
def valueOf? : (k : Kind) → k.Value → Option Value
  | .text, (s : String) => some (.text s)
  | .flag, (b : Bool) => some (.flag b)
  | .port, (p : UInt16) => some (.integer p.toNat)
  | .duration, (d : Duration) => some (.text (String.ofList d.text))
  | .texts, (xs : List String) => some (.list (xs.map .text))
  | .path, (p : Option String) => p.map .text

/-- **What is written for a field** writes the value that stands for it. -/
theorem writesValue_writeValue? : (k : Kind) → (x : k.Value) → Option.Rel WritesValue (writeValue? k x) (valueOf? k x)
  | .text, (s : String) => .some (writesValue_string s)
  | .flag, (b : Bool) => .some (writesValue_flag b)
  | .port, (p : UInt16) => .some (writesValue_decimal (Nat.lt_trans p.toNat_lt (by decide)))
  | .duration, (d : Duration) => by
    have := writesValue_string (String.ofList d.text)
    rw [String.toList_ofList] at this
    exact .some this
  | .texts, (xs : List String) => .some (writesValue_texts xs)
  | .path, none => .none
  | .path, some s => .some (writesValue_string s)

end AuthProxy.Toml
