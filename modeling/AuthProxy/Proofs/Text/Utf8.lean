import AuthProxy.Text.Utf8

/-!
# Text encoded and decoded

The bytes of a text are decoded to the text again (`decodeUtf8?_encodeUtf8`, `decodeLossy_encodeUtf8`): by `pieces_encodeUtf8` they
fall into its characters with no stray byte between them. The other way round, the pieces of a byte string make it up
(`flatMap_pieces`), so that a text that was decoded is encoded in the bytes that it was read from (`encodeUtf8_of_decodeUtf8?`).
-/

namespace AuthProxy.Text

/-- The byte of a number that fits one. -/
theorem toNat_ofNat_of_lt {n : Nat} (h : n < 256) : (UInt8.ofNat n).toNat = n := by
  rw [UInt8.toNat_ofNat', Nat.mod_eq_of_lt h]

/-- A character has a code below the surrogates or above them. -/
theorem code_bounds (c : Char) : c.toNat < 0xD800 ∨ (0xDFFF < c.toNat ∧ c.toNat < 0x110000) :=
  c.valid

/-- A byte that continues a pending character and is not its last one. -/
theorem piecesFrom_continue {p : Pending} {n : Nat} (r : Bytes) (hn : n < 256) (hlow : p.low ≤ n) (hhigh : n ≤ p.high)
    (hmissing : 1 < p.missing) : piecesFrom (some p) (UInt8.ofNat n :: r) =
      piecesFrom (some ⟨p.missing - 1, 0x80, 0xBF, p.value * 64 + (n - 0x80), p.bytes ++ [UInt8.ofNat n]⟩) r := by
  rw [piecesFrom, toNat_ofNat_of_lt hn, if_pos ⟨hlow, hhigh⟩]
  dsimp only
  rw [if_neg (by omega)]

/-- The last byte of a pending character. -/
theorem piecesFrom_complete {p : Pending} {n : Nat} (r : Bytes) (hn : n < 256) (hlow : p.low ≤ n) (hhigh : n ≤ p.high)
    (hmissing : p.missing = 1) : piecesFrom (some p) (UInt8.ofNat n :: r) =
      .scalar (Char.ofNat (p.value * 64 + (n - 0x80))) :: piecesFrom none r := by
  rw [piecesFrom, toNat_ofNat_of_lt hn, if_pos ⟨hlow, hhigh⟩]
  dsimp only
  rw [if_pos (by omega)]

/-- A byte that starts a character of more than one. -/
theorem piecesFrom_start {n : Nat} {p : Pending} (r : Bytes) (h : startByte (UInt8.ofNat n) = .inr p) :
    piecesFrom none (UInt8.ofNat n :: r) = piecesFrom (some p) r := by
  rw [piecesFrom, h]

theorem startByte_two {n : Nat} (hlow : 0xC2 ≤ n) (hhigh : n < 0xE0) :
    startByte (UInt8.ofNat n) = .inr ⟨1, 0x80, 0xBF, n - 0xC0, [UInt8.ofNat n]⟩ := by
  unfold startByte
  dsimp only
  rw [toNat_ofNat_of_lt (by omega), if_neg (by omega), if_neg (by omega), if_pos hhigh]

theorem startByte_three {n : Nat} (hlow : 0xE0 ≤ n) (hhigh : n < 0xF0) : startByte (UInt8.ofNat n) = .inr
    ⟨2, if n = 0xE0 then 0xA0 else 0x80, if n = 0xED then 0x9F else 0xBF, n - 0xE0, [UInt8.ofNat n]⟩ := by
  unfold startByte
  dsimp only
  rw [toNat_ofNat_of_lt (by omega), if_neg (by omega), if_neg (by omega), if_neg (by omega), if_pos hhigh]

theorem startByte_four {n : Nat} (hlow : 0xF0 ≤ n) (hhigh : n < 0xF5) : startByte (UInt8.ofNat n) = .inr
    ⟨3, if n = 0xF0 then 0x90 else 0x80, if n = 0xF4 then 0x8F else 0xBF, n - 0xF0, [UInt8.ofNat n]⟩ := by
  unfold startByte
  dsimp only
  rw [toNat_ofNat_of_lt (by omega), if_neg (by omega), if_neg (by omega), if_neg (by omega), if_neg (by omega),
    if_pos hhigh]

/-- **The bytes of a character** are one piece, whatever follows them. -/
theorem piecesFrom_encodeChar (c : Char) (r : Bytes) :
    piecesFrom none (String.utf8EncodeChar c ++ r) = .scalar c :: piecesFrom none r := by
  have hc := code_bounds c
  have hval : c.val.toNat = c.toNat := rfl
  unfold String.utf8EncodeChar
  simp only [hval]
  split
  next h1 =>
    rw [List.singleton_append, piecesFrom, startByte, toNat_ofNat_of_lt (by omega), if_pos (by omega), Char.ofNat_toNat]
  next h1 =>
    split
    next h2 =>
      rw [List.cons_append, List.singleton_append, piecesFrom_start _ (startByte_two (by omega) (by omega)),
        piecesFrom_complete _ (by omega) (by dsimp only; omega) (by dsimp only; omega) rfl]
      have hcode : (c.toNat / 64 % 32 + 192 - 192) * 64 + (c.toNat % 64 + 128 - 128) = c.toNat := by omega
      rw [hcode, Char.ofNat_toNat]
    next h2 =>
      split
      next h3 =>
        rw [List.cons_append, List.cons_append, List.singleton_append,
          piecesFrom_start _ (startByte_three (by omega) (by omega)),
          piecesFrom_continue _ (by omega) (by dsimp only; split <;> omega) (by dsimp only; split <;> omega) (by dsimp only; omega),
          piecesFrom_complete _ (by omega) (by dsimp only; omega) (by dsimp only; omega) rfl]
        have hcode : ((c.toNat / 4096 % 16 + 224 - 224) * 64 + (c.toNat / 64 % 64 + 128 - 128)) * 64 +
            (c.toNat % 64 + 128 - 128) = c.toNat := by omega
        rw [hcode, Char.ofNat_toNat]
      next h3 =>
        rw [List.cons_append, List.cons_append, List.cons_append, List.singleton_append,
          piecesFrom_start _ (startByte_four (by omega) (by omega)),
          piecesFrom_continue _ (by omega) (by dsimp only; split <;> omega) (by dsimp only; split <;> omega) (by dsimp only; omega),
          piecesFrom_continue _ (by omega) (by dsimp only; omega) (by dsimp only; omega) (by dsimp only; omega),
          piecesFrom_complete _ (by omega) (by dsimp only; omega) (by dsimp only; omega) rfl]
        have hcode : (((c.toNat / 262144 % 8 + 240 - 240) * 64 + (c.toNat / 4096 % 64 + 128 - 128)) * 64 +
            (c.toNat / 64 % 64 + 128 - 128)) * 64 + (c.toNat % 64 + 128 - 128) = c.toNat := by omega
        rw [hcode, Char.ofNat_toNat]

theorem pieces_encodeUtf8 (s : List Char) : pieces (encodeUtf8 s) = s.map .scalar := by
  induction s with
  | nil => rfl
  | cons c s ih =>
    rw [pieces, encodeUtf8, List.flatMap_cons, piecesFrom_encodeChar]
    exact congrArg (Piece.scalar c :: ·) ih

/-- **An encoded text is decoded to itself.** -/
theorem decodeUtf8?_encodeUtf8 (s : List Char) : decodeUtf8? (encodeUtf8 s) = some s := by
  rw [decodeUtf8?, pieces_encodeUtf8]
  induction s with
  | nil => rfl
  | cons c s ih =>
    rw [List.map_cons, List.mapM_cons, ih]
    rfl

/-- **Nothing of it is replaced** where stray bytes would be. -/
theorem decodeLossy_encodeUtf8 (s : List Char) : decodeLossy (encodeUtf8 s) = s := by
  rw [decodeLossy, pieces_encodeUtf8, List.map_map]
  exact List.map_id s

theorem encodeUtf8_injective {s t : List Char} (h : encodeUtf8 s = encodeUtf8 t) : s = t := by
  have hdecode := congrArg decodeUtf8? h
  rw [decodeUtf8?_encodeUtf8, decodeUtf8?_encodeUtf8] at hdecode
  exact Option.some.inj hdecode

theorem piecesFrom_some_ne_nil (bs : Bytes) : ∀ p : Pending, piecesFrom (some p) bs ≠ [] := by
  induction bs with
  | nil => exact fun p => List.cons_ne_nil _ _
  | cons b bs ih =>
    intro p
    rw [piecesFrom]
    split
    · dsimp only
      split
      · exact List.cons_ne_nil _ _
      · exact ih _
    · split
      · exact List.cons_ne_nil _ _
      · exact List.cons_ne_nil _ _

/-- Only the empty byte string is the empty text. -/
theorem eq_nil_of_decodeUtf8?_eq_nil {bs : Bytes} (h : decodeUtf8? bs = some []) : bs = [] := by
  have hpieces : pieces bs = [] := by
    cases hp : pieces bs with
    | nil => rfl
    | cons p ps =>
      rw [decodeUtf8?, hp, List.mapM_cons] at h
      obtain ⟨c, -, h⟩ := Option.bind_eq_some_iff.1 h
      obtain ⟨cs, -, h⟩ := Option.bind_eq_some_iff.1 h
      cases h
  cases bs with
  | nil => rfl
  | cons b bs =>
    rw [pieces, piecesFrom] at hpieces
    split at hpieces
    · cases hpieces
    next p _ => exact absurd hpieces (piecesFrom_some_ne_nil bs p)

/-! ## No byte is lost -/

/-- The bytes of a piece. -/
def Piece.bytes : Piece → Bytes
  | scalar c => String.utf8EncodeChar c
  | stray bs => bs

/-- However the missing bytes of a character are chosen within their bounds, the bytes are those of the character that their
    values make up. -/
def Opens : (missing low high value : Nat) → Bytes → Prop
  | 0, _, _, value, bytes => String.utf8EncodeChar (Char.ofNat value) = bytes
  | missing + 1, low, high, value, bytes => ∀ b : UInt8, low ≤ b.toNat → b.toNat ≤ high →
      Opens missing 0x80 0xBF (value * 64 + (b.toNat - 0x80)) (bytes ++ [b])

/-- A pending character whose bytes so far can be completed to it. -/
structure Pending.Sound (p : Pending) : Prop where
  missing : p.missing ≠ 0
  opens : Opens p.missing p.low p.high p.value p.bytes

theorem ofNat_eq_of_toNat {b : UInt8} {n : Nat} (h : n = b.toNat) : UInt8.ofNat n = b := by
  rw [h, UInt8.ofNat_toNat]

theorem val_ofNat {n : Nat} (h : n.isValidChar) : (Char.ofNat n).val.toNat = n := by
  rw [Char.ofNat, dif_pos h]
  rfl

theorem opens_two {a : UInt8} (hlow : 0xC2 ≤ a.toNat) (hhigh : a.toNat < 0xE0) :
    Opens 1 0x80 0xBF (a.toNat - 0xC0) [a] := by
  intro b hb hb'
  have hvalid : ((a.toNat - 0xC0) * 64 + (b.toNat - 0x80)).isValidChar := .inl (by omega)
  rw [Opens, String.utf8EncodeChar, val_ofNat hvalid]
  rw [if_neg (by omega), if_pos (by omega), ofNat_eq_of_toNat (b := a) (by omega), ofNat_eq_of_toNat (b := b) (by omega)]
  rfl

theorem opens_three {a : UInt8} (hlow : 0xE0 ≤ a.toNat) (hhigh : a.toNat < 0xF0) :
    Opens 2 (if a.toNat = 0xE0 then 0xA0 else 0x80) (if a.toNat = 0xED then 0x9F else 0xBF) (a.toNat - 0xE0) [a] := by
  intro b hb hb' c hc hc'
  have hb₁ : 0x80 ≤ b.toNat ∧ (a.toNat = 0xE0 → 0xA0 ≤ b.toNat) := by
    split at hb <;> omega
  have hb₂ : b.toNat ≤ 0xBF ∧ (a.toNat = 0xED → b.toNat ≤ 0x9F) := by
    split at hb' <;> omega
  have hvalid : (((a.toNat - 0xE0) * 64 + (b.toNat - 0x80)) * 64 + (c.toNat - 0x80)).isValidChar := by
    unfold Nat.isValidChar
    omega
  rw [Opens, String.utf8EncodeChar, val_ofNat hvalid]
  rw [if_neg (by omega), if_neg (by omega), if_pos (by omega), ofNat_eq_of_toNat (b := a) (by omega),
    ofNat_eq_of_toNat (b := b) (by omega), ofNat_eq_of_toNat (b := c) (by omega)]
  rfl

theorem opens_four {a : UInt8} (hlow : 0xF0 ≤ a.toNat) (hhigh : a.toNat < 0xF5) :
    Opens 3 (if a.toNat = 0xF0 then 0x90 else 0x80) (if a.toNat = 0xF4 then 0x8F else 0xBF) (a.toNat - 0xF0) [a] := by
  intro b hb hb' c hc hc' d hd hd'
  have hb₁ : 0x80 ≤ b.toNat ∧ (a.toNat = 0xF0 → 0x90 ≤ b.toNat) := by
    split at hb <;> omega
  have hb₂ : b.toNat ≤ 0xBF ∧ (a.toNat = 0xF4 → b.toNat ≤ 0x8F) := by
    split at hb' <;> omega
  have hvalid : ((((a.toNat - 0xF0) * 64 + (b.toNat - 0x80)) * 64 + (c.toNat - 0x80)) * 64 + (d.toNat - 0x80)).isValidChar := by
    unfold Nat.isValidChar
    omega
  rw [Opens, String.utf8EncodeChar, val_ofNat hvalid]
  rw [if_neg (by omega), if_neg (by omega), if_neg (by omega), ofNat_eq_of_toNat (b := a) (by omega),
    ofNat_eq_of_toNat (b := b) (by omega), ofNat_eq_of_toNat (b := c) (by omega), ofNat_eq_of_toNat (b := d) (by omega)]
  rfl

/-- What a byte starts is made up of that byte. -/
theorem startByte_spec (b : UInt8) :
    (∃ piece, startByte b = .inl piece ∧ piece.bytes = [b]) ∨ ∃ p, startByte b = .inr p ∧ p.bytes = [b] ∧ p.Sound := by
  unfold startByte
  dsimp only
  split
  next h =>
    refine .inl ⟨_, rfl, ?_⟩
    rw [Piece.bytes, String.utf8EncodeChar, val_ofNat (.inl (by omega))]
    rw [if_pos (by omega), UInt8.ofNat_toNat]
  split
  · exact .inl ⟨_, rfl, rfl⟩
  split
  · exact .inr ⟨_, rfl, rfl, Nat.succ_ne_zero _, opens_two (by omega) (by omega)⟩
  split
  · exact .inr ⟨_, rfl, rfl, Nat.succ_ne_zero _, opens_three (by omega) (by omega)⟩
  split
  · exact .inr ⟨_, rfl, rfl, Nat.succ_ne_zero _, opens_four (by omega) (by omega)⟩
  · exact .inl ⟨_, rfl, rfl⟩

/-- The bytes that have been read of a pending character. -/
def pendingBytes (p : Option Pending) : Bytes :=
  p.elim [] Pending.bytes

/-- A byte that does not continue a pending character leaves its bytes stray and starts anew. -/
theorem piecesFrom_of_not_within {p : Pending} {b : UInt8} (h : ¬ (p.low ≤ b.toNat ∧ b.toNat ≤ p.high)) (r : Bytes) :
    piecesFrom (some p) (b :: r) = .stray p.bytes :: piecesFrom none (b :: r) := by
  simp only [piecesFrom, if_neg h]
  cases startByte b <;> rfl

/-- The bytes of the pieces are those that have been read and those that follow. -/
theorem flatMap_piecesFrom (bs : Bytes) : ∀ p : Option Pending, (∀ q ∈ p, q.Sound) →
    (piecesFrom p bs).flatMap Piece.bytes = pendingBytes p ++ bs := by
  induction bs with
  | nil =>
    intro p _
    cases p with
    | none => rfl
    | some p => exact congrArg (p.bytes ++ ·) rfl
  | cons b bs ih =>
    have hnone : (piecesFrom none (b :: bs)).flatMap Piece.bytes = b :: bs := by
      rw [piecesFrom]
      rcases startByte_spec b with ⟨piece, hstart, hbytes⟩ | ⟨p, hstart, hbytes, hp⟩
      · rw [hstart]
        dsimp only
        rw [List.flatMap_cons, hbytes, ih none nofun]
        rfl
      · rw [hstart]
        dsimp only
        rw [ih (some p) fun q hq => by cases hq; exact hp, pendingBytes, Option.elim_some, hbytes]
        rfl
    intro p hp
    cases p with
    | none => exact hnone
    | some p =>
      obtain ⟨hmissing, hopens⟩ := hp p rfl
      by_cases hb : p.low ≤ b.toNat ∧ b.toNat ≤ p.high
      · obtain ⟨n, hn⟩ := Nat.exists_eq_succ_of_ne_zero hmissing
        rw [hn] at hopens
        have hnext := hopens b hb.1 hb.2
        rw [piecesFrom, if_pos hb]
        dsimp only
        split
        next hle =>
          obtain rfl : n = 0 := by omega
          rw [List.flatMap_cons, Piece.bytes, hnext, ih none nofun]
          exact List.append_assoc ..
        next hle =>
          rw [ih (some _) fun q hq => by cases hq; exact ⟨Nat.sub_ne_zero_of_lt (Nat.lt_of_not_le hle), by rw [hn]; exact hnext⟩]
          exact List.append_assoc ..
      · rw [piecesFrom_of_not_within hb, List.flatMap_cons, hnone]
        rfl

/-- **The pieces of a byte string** make it up. -/
theorem flatMap_pieces (bs : Bytes) : (pieces bs).flatMap Piece.bytes = bs :=
  flatMap_piecesFrom bs none nofun

/-- **A decoded text is encoded in the bytes** that it was read from. -/
theorem encodeUtf8_of_decodeUtf8? {bs : Bytes} {s : List Char} (h : decodeUtf8? bs = some s) : encodeUtf8 s = bs := by
  have hscalars : ∀ {ps : List Piece} {s : List Char}, ps.mapM Piece.scalar? = some s → ps = s.map .scalar := by
    intro ps
    induction ps with
    | nil =>
      intro s h
      cases h
      rfl
    | cons p ps ih =>
      intro s h
      rw [List.mapM_cons] at h
      obtain ⟨c, hc, h⟩ := Option.bind_eq_some_iff.1 h
      obtain ⟨cs, hcs, h⟩ := Option.bind_eq_some_iff.1 h
      cases h
      cases p with
      | scalar d =>
        cases hc
        rw [ih hcs, List.map_cons]
      | stray bytes => cases hc
  rw [← flatMap_pieces bs, hscalars h, List.flatMap_map]
  rfl

/-! ## The number of bytes -/

theorem utf8Length_cons (c : Char) (s : List Char) : utf8Length (c :: s) = c.utf8Size + utf8Length s := by
  have hfold : ∀ (s : List Char) (n : Nat), s.foldl (fun n c => n + c.utf8Size) n = n + utf8Length s := by
    intro s
    induction s with
    | nil => exact fun n => rfl
    | cons c s ih =>
      intro n
      rw [utf8Length, List.foldl_cons, List.foldl_cons, ih, ih, Nat.zero_add, Nat.add_assoc]
  rw [utf8Length, List.foldl_cons, hfold, Nat.zero_add]

theorem utf8Length_append (s t : List Char) : utf8Length (s ++ t) = utf8Length s + utf8Length t := by
  induction s with
  | nil => exact (Nat.zero_add _).symm
  | cons c s ih => rw [List.cons_append, utf8Length_cons, utf8Length_cons, ih, Nat.add_assoc]

theorem utf8Length_ascii {s : List Char} (h : ∀ c ∈ s, c.toNat < 128) : utf8Length s = s.length := by
  induction s with
  | nil => rfl
  | cons c s ih =>
    obtain ⟨hc, hs⟩ := List.forall_mem_cons.1 h
    have hsize : c.utf8Size = 1 := Char.utf8Size_eq_one_iff.2 (UInt32.le_iff_toNat_le.2 (Nat.le_of_lt_succ hc))
    rw [utf8Length_cons, ih hs, hsize, List.length_cons, Nat.add_comm]

end AuthProxy.Text
