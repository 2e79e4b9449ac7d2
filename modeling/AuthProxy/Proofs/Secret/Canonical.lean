import AuthProxy.Outcome
import AuthProxy.Proofs.Text.Utf8
import AuthProxy.Secret.Base64
import Mathlib.Data.List.Basic
import Mathlib.Tactic.SplitIfs

/-!
# Decoding accepts encodings alone

A text is decoded to a byte string exactly if it is its encoding (`decode_eq_ok_iff`). This holds of the groups of four symbols
first, which have three bytes, then of the last group, where padding stands for the bytes that are missing and the bits left
over must be zero, and then of any number of groups.
-/

namespace AuthProxy.Secret

open Text

/-! ## Symbols -/

theorem toNat_symbol {n : Nat} (h : n < 64) : (symbol n).toNat =
    if n < 26 then 65 + n else if n < 52 then 97 + (n - 26) else if n < 62 then 48 + (n - 52) else
      if n = 62 then 43 else 47 := by
  revert n
  decide

theorem toNat_symbol_lt (n : Nat) : (symbol n).toNat < 128 := by
  rcases Nat.lt_or_ge n 64 with h | h
  · rw [toNat_symbol h]
    split_ifs <;> omega
  · -- such numbers have the sign of 63
    rw [symbol, if_neg (by omega), if_neg (by omega), if_neg (by omega), if_neg (by omega)]
    decide

/-- A byte has the number whose symbol it is. -/
theorem symbolValue?_eq_some_iff {b : UInt8} {n : Nat} : symbolValue? b = some n ↔ n < 64 ∧ b = symbol n := by
  constructor
  · intro h
    have hn : n < 64 := by
      simp only [symbolValue?] at h
      split_ifs at h <;> simp only [Option.some.injEq] at h <;> omega
    refine ⟨hn, UInt8.toNat_inj.1 ?_⟩
    rw [toNat_symbol hn]
    simp only [symbolValue?] at h
    split_ifs at h <;> simp only [Option.some.injEq] at h <;> split_ifs <;> omega
  · rintro ⟨hn, rfl⟩
    exact symbolValue?_symbol hn

theorem symbol_ne_padding {n : Nat} (h : n < 64) : symbol n ≠ padding := by
  intro he
  have hvalue := symbolValue?_symbol h
  rw [he, symbolValue?_padding] at hvalue
  cases hvalue

theorem valueAt_eq_ok_iff {offset n : Nat} {b : UInt8} : valueAt offset b = .ok n ↔ n < 64 ∧ b = symbol n := by
  rw [← symbolValue?_eq_some_iff, valueAt]
  cases symbolValue? b <;> simp

theorem ofNat_eq_iff {n : Nat} {b : UInt8} : UInt8.ofNat n = b ↔ n % 256 = b.toNat := by
  rw [← UInt8.toNat_inj, UInt8.toNat_ofNat']

/-! ## Encodings -/

/-- An encoding has four symbols for three bytes, and for what is left over. -/
theorem length_encode (key : Bytes) : (encode key).length = 4 * ((key.length + 2) / 3) := by
  fun_induction encode key with
  | case1 => rfl
  | case2 => simp
  | case3 => simp
  | case4 a b c r _ ih =>
    simp only [List.length_cons, ih]
    omega

theorem encode_eq_nil_iff {key : Bytes} : encode key = [] ↔ key = [] := by
  rw [← List.length_eq_zero_iff, length_encode, ← List.length_eq_zero_iff]
  omega

/-- An encoding is a text of ASCII characters. -/
theorem toNat_lt_of_mem_encode (key : Bytes) : ∀ b ∈ encode key, b.toNat < 128 := by
  have hpadding : padding.toNat < 128 := by decide
  fun_induction encode key with
  | case1 => exact List.forall_mem_nil _
  | case2 => simp [toNat_symbol_lt, hpadding]
  | case3 => simp [toNat_symbol_lt, hpadding]
  | case4 a b c r _ ih => simpa [toNat_symbol_lt] using ih

/-! ## Groups -/

/-- What a group of four signs encodes: three bytes, or two or one where padding stands for the others and no bit of the symbols
    is left over. -/
inductive Group : Bytes → Bytes → Prop
  | three {a b c d n : Nat} (ha : a < 64) (hb : b < 64) (hc : c < 64) (hd : d < 64)
      (hn : n = ((a * 64 + b) * 64 + c) * 64 + d) :
      Group [symbol a, symbol b, symbol c, symbol d] [UInt8.ofNat (n / 65536), UInt8.ofNat (n / 256), UInt8.ofNat n]
  | two {a b c n : Nat} (ha : a < 64) (hb : b < 64) (hc : c < 64) (hn : n = (a * 64 + b) * 64 + c) (hbits : n % 4 = 0) :
      Group [symbol a, symbol b, symbol c, padding] [UInt8.ofNat (n / 1024), UInt8.ofNat (n / 4)]
  | one {a b n : Nat} (ha : a < 64) (hb : b < 64) (hn : n = a * 64 + b) (hbits : n % 16 = 0) :
      Group [symbol a, symbol b, padding, padding] [UInt8.ofNat (n / 16)]

section Groups

variable {offset : Nat} {key : Bytes}

/-- What a group encodes is encoded in it. -/
theorem Group.eq_encode {group : Bytes} (h : Group group key) : group = encode key := by
  cases h with
  | @three a b c d n ha hb hc hd hn =>
    have hbytes : (n / 65536 % 256 * 256 + n / 256 % 256) * 256 + n % 256 = n := by omega
    have ha' : n / 262144 = a := by omega
    have hb' : n / 4096 % 64 = b := by omega
    have hc' : n / 64 % 64 = c := by omega
    have hd' : n % 64 = d := by omega
    simp only [encode, UInt8.toNat_ofNat', Nat.reducePow, hbytes, ha', hb', hc', hd']
  | @two a b c n ha hb hc hn hbits =>
    have hbytes : (n / 1024 % 256 * 256 + n / 4 % 256) * 4 = n := by omega
    have ha' : n / 4096 = a := by omega
    have hb' : n / 64 % 64 = b := by omega
    have hc' : n % 64 = c := by omega
    simp only [encode, UInt8.toNat_ofNat', Nat.reducePow, hbytes, ha', hb', hc']
  | @one a b n ha hb hn hbits =>
    have hbyte : n / 16 % 256 * 16 = n := by omega
    have ha' : n / 64 = a := by omega
    have hb' : n % 64 = b := by omega
    simp only [encode, UInt8.toNat_ofNat', Nat.reducePow, hbyte, ha', hb']

/-- One to three bytes are encoded in one group. -/
theorem group_encode (hne : key ≠ []) (hlength : key.length ≤ 3) : Group (encode key) key := by
  match key with
  | [x] =>
    have hx := x.toNat_lt
    have hgroup := Group.one (a := x.toNat * 16 / 64) (b := x.toNat * 16 % 64) (by omega) (by omega) rfl (by omega)
    have hbyte : UInt8.ofNat ((x.toNat * 16 / 64 * 64 + x.toNat * 16 % 64) / 16) = x := ofNat_eq_iff.2 (by omega)
    rwa [hbyte] at hgroup
  | [x, y] =>
    have hx := x.toNat_lt
    have hy := y.toNat_lt
    generalize hn : (x.toNat * 256 + y.toNat) * 4 = n
    have hgroup := Group.two (a := n / 4096) (b := n / 64 % 64) (c := n % 64) (n := n) (by omega) (by omega) (by omega)
      (by omega) (by omega)
    have hfirst : UInt8.ofNat (n / 1024) = x := ofNat_eq_iff.2 (by omega)
    have hsecond : UInt8.ofNat (n / 4) = y := ofNat_eq_iff.2 (by omega)
    rw [hfirst, hsecond, ← hn] at hgroup
    exact hgroup
  | [x, y, z] =>
    have hx := x.toNat_lt
    have hy := y.toNat_lt
    have hz := z.toNat_lt
    generalize hn : (x.toNat * 256 + y.toNat) * 256 + z.toNat = n
    have hgroup := Group.three (a := n / 262144) (b := n / 4096 % 64) (c := n / 64 % 64) (d := n % 64) (n := n) (by omega)
      (by omega) (by omega) (by omega) (by omega)
    have hfirst : UInt8.ofNat (n / 65536) = x := ofNat_eq_iff.2 (by omega)
    have hsecond : UInt8.ofNat (n / 256) = y := ofNat_eq_iff.2 (by omega)
    have hthird : UInt8.ofNat n = z := ofNat_eq_iff.2 (by omega)
    rw [hfirst, hsecond, hthird, ← hn] at hgroup
    exact hgroup

theorem group_iff {group : Bytes} : Group group key ↔ key ≠ [] ∧ key.length ≤ 3 ∧ group = encode key := by
  constructor
  · intro h
    refine ⟨?_, ?_, h.eq_encode⟩
    · cases h <;> exact List.cons_ne_nil _ _
    · cases h <;> simp
  · rintro ⟨hne, hlength, rfl⟩
    exact group_encode hne hlength

/-- A group behind which others stand is decoded to the three bytes that it encodes. -/
theorem decodeGroup_eq_ok_iff {a b c d : UInt8} :
    decodeGroup offset a b c d = .ok key ↔ Group [a, b, c, d] key ∧ key.length = 3 := by
  simp only [decodeGroup, Outcome.bind_eq_ok_iff, valueAt_eq_ok_iff, Except.ok.injEq]
  constructor
  · rintro ⟨i, ⟨hi, rfl⟩, j, ⟨hj, rfl⟩, k, ⟨hk, rfl⟩, l, ⟨hl, rfl⟩, rfl⟩
    exact ⟨.three hi hj hk hl rfl, rfl⟩
  · rintro ⟨h, hlength⟩
    cases h with
    | @three i j k l n hi hj hk hl hn =>
      subst hn
      exact ⟨i, ⟨hi, rfl⟩, j, ⟨hj, rfl⟩, k, ⟨hk, rfl⟩, l, ⟨hl, rfl⟩, rfl⟩
    | two => cases hlength
    | one => cases hlength

/-- The symbols of numbers, and padding behind them. -/
def Padded (ns : List Nat) (more : Nat) (group : Bytes) : Prop :=
  (∀ n ∈ ns, n < 64) ∧ group = ns.map symbol ++ List.replicate more padding

variable {ns : List Nat} {more : Nat} {b : UInt8} {r : Bytes}

theorem padded_nil_iff : Padded ns more [] ↔ ns = [] ∧ more = 0 := by
  rw [Padded, eq_comm, List.append_eq_nil_iff, List.map_eq_nil_iff, List.replicate_eq_nil_iff]
  constructor
  · exact fun h => h.2
  · rintro ⟨rfl, rfl⟩
    exact ⟨List.forall_mem_nil _, rfl, rfl⟩

theorem padded_padding_iff : Padded ns more (padding :: r) ↔ ns = [] ∧ ∃ k, more = k + 1 ∧ Padded [] k r := by
  constructor
  · rintro ⟨hns, h⟩
    cases ns with
    | nil =>
      cases more with
      | zero => cases h
      | succ k => exact ⟨rfl, k, rfl, hns, (List.cons.inj h).2⟩
    | cons n ns => exact absurd (List.cons.inj h).1.symm (symbol_ne_padding (hns n List.mem_cons_self))
  · rintro ⟨rfl, k, rfl, hnil, rfl⟩
    exact ⟨hnil, rfl⟩

theorem padded_cons_iff (hb : b ≠ padding) :
    Padded ns more (b :: r) ↔ ∃ n ms, ns = n :: ms ∧ n < 64 ∧ b = symbol n ∧ Padded ms more r := by
  constructor
  · rintro ⟨hns, h⟩
    cases ns with
    | nil =>
      cases more with
      | zero => cases h
      | succ k => exact absurd (List.cons.inj h).1 hb
    | cons n ms =>
      obtain ⟨hn, hms⟩ := List.forall_mem_cons.1 hns
      exact ⟨n, ms, rfl, hn, (List.cons.inj h).1, hms, (List.cons.inj h).2⟩
  · rintro ⟨n, ms, rfl, hn, rfl, hms, rfl⟩
    exact ⟨List.forall_mem_cons.2 ⟨hn, hms⟩, rfl⟩

/-- What is read of the last group: symbols with padding behind them, none of it on the first two places. -/
theorem scanLast_eq_ok_iff {index pads total : Nat} {group : Bytes} :
    scanLast offset index pads group = .ok (ns, total) ↔ ∃ more, total = pads + more ∧ Padded ns more group ∧
      (0 < more → 2 ≤ index + ns.length) ∧ (0 < pads → ns = []) := by
  induction group generalizing index pads ns with
  | nil =>
    simp only [scanLast, Except.ok.injEq, Prod.mk.injEq, padded_nil_iff]
    constructor
    · rintro ⟨rfl, rfl⟩
      exact ⟨0, rfl, ⟨rfl, rfl⟩, fun h => absurd h (Nat.lt_irrefl 0), fun _ => rfl⟩
    · rintro ⟨more, rfl, ⟨rfl, rfl⟩, -⟩
      exact ⟨rfl, rfl⟩
  | cons b r ih =>
    rw [scanLast]
    split_ifs with hb hindex hpads
    · -- padding on one of the first two places
      subst hb
      refine iff_of_false (by rintro ⟨⟩) ?_
      rintro ⟨more, -, hgroup, hplace, -⟩
      obtain ⟨rfl, k, rfl, -⟩ := padded_padding_iff.1 hgroup
      have hplace : 2 ≤ index := hplace (by omega)
      omega
    · subst hb
      rw [ih]
      constructor
      · rintro ⟨k, rfl, hgroup, -, hnil⟩
        obtain rfl := hnil (by omega)
        exact ⟨k + 1, by omega, padded_padding_iff.2 ⟨rfl, k, rfl, hgroup⟩, fun _ => by omega, fun _ => rfl⟩
      · rintro ⟨more, rfl, hgroup, -, -⟩
        obtain ⟨rfl, k, rfl, hrest⟩ := padded_padding_iff.1 hgroup
        exact ⟨k, by omega, hrest, fun _ => by omega, fun _ => rfl⟩
    · -- another sign behind padding
      refine iff_of_false (by rintro ⟨⟩) ?_
      rintro ⟨more, -, hgroup, -, hnil⟩
      obtain ⟨n, ms, rfl, -⟩ := (padded_cons_iff hb).1 hgroup
      cases hnil hpads
    · obtain rfl : pads = 0 := by omega
      simp only [Outcome.bind_eq_ok_iff, valueAt_eq_ok_iff, Except.ok.injEq, Prod.exists, Prod.mk.injEq]
      constructor
      · rintro ⟨n, ⟨hn, hsymbol⟩, ms, q, hscan, rfl, rfl⟩
        obtain ⟨more, rfl, hgroup, hplace, -⟩ := ih.1 hscan
        refine ⟨more, rfl, (padded_cons_iff hb).2 ⟨n, ms, rfl, hn, hsymbol, hgroup⟩, fun h => ?_, fun h => absurd h hpads⟩
        have hplace := hplace h
        rw [List.length_cons]
        omega
      · rintro ⟨more, rfl, hgroup, hplace, -⟩
        obtain ⟨n, ms, rfl, hn, hsymbol, hgroup⟩ := (padded_cons_iff hb).1 hgroup
        refine ⟨n, ⟨hn, hsymbol⟩, ms, _, ih.2 ⟨more, rfl, hgroup, fun h => ?_, fun h => absurd h hpads⟩, rfl, rfl⟩
        have hplace := hplace h
        rw [List.length_cons] at hplace
        omega

/-- **The last group** is decoded to what it encodes. -/
theorem decodeLast_eq_ok_iff {group : Bytes} : decodeLast offset group = .ok key ↔ Group group key := by
  simp only [decodeLast, Outcome.bind_eq_ok_iff, Prod.exists, scanLast_eq_ok_iff]
  constructor
  · rintro ⟨ns, pads, ⟨more, rfl, ⟨hns, rfl⟩, -, -⟩, h⟩
    rw [Nat.zero_add] at h
    split_ifs at h with hfew hfour
    rw [ne_eq, not_not] at hfour
    -- there are two symbols at least, and four with the padding
    match ns with
    | [] => exact absurd Nat.zero_lt_two hfew
    | [a] => exact absurd Nat.one_lt_two hfew
    | [a, b] =>
      obtain rfl : more = 2 := by
        simp only [List.length_cons, List.length_nil] at hfour
        omega
      simp only [List.forall_mem_cons] at hns
      dsimp only at h
      split_ifs at h with hbits
      cases h
      exact .one hns.1 hns.2.1 rfl (by omega)
    | [a, b, c] =>
      obtain rfl : more = 1 := by
        simp only [List.length_cons, List.length_nil] at hfour
        omega
      simp only [List.forall_mem_cons] at hns
      dsimp only at h
      split_ifs at h with hbits
      cases h
      exact .two hns.1 hns.2.1 hns.2.2.1 rfl (by omega)
    | a :: b :: c :: d :: rest =>
      obtain ⟨rfl, rfl⟩ : rest = [] ∧ more = 0 := by
        rw [← List.length_eq_zero_iff]
        simp only [List.length_cons] at hfour
        omega
      simp only [List.forall_mem_cons] at hns
      cases h
      exact .three hns.1 hns.2.1 hns.2.2.1 hns.2.2.2.1 rfl
  · intro h
    cases h with
    | @three a b c d n ha hb hc hd hn =>
      subst hn
      refine ⟨[a, b, c, d], 0, ⟨0, rfl, ⟨by simp [ha, hb, hc, hd], rfl⟩, by simp, by simp⟩, rfl⟩
    | @two a b c n ha hb hc hn hbits =>
      subst hn
      refine ⟨[a, b, c], 1, ⟨1, rfl, ⟨by simp [ha, hb, hc], rfl⟩, by simp, by simp⟩, ?_⟩
      rw [if_neg (by simp), if_neg (by simp)]
      exact if_neg (by omega)
    | @one a b n ha hb hn hbits =>
      subst hn
      refine ⟨[a, b], 2, ⟨2, rfl, ⟨by simp [ha, hb], rfl⟩, by simp, by simp⟩, ?_⟩
      rw [if_neg (by simp), if_neg (by simp)]
      exact if_neg (by omega)

end Groups

/-! ## Texts -/

/-- The first group of an encoding, and the encoding of the other bytes. -/
theorem encode_append {first : Bytes} (h : first.length = 3) (rest : Bytes) :
    encode (first ++ rest) = encode first ++ encode rest := by
  obtain ⟨x, y, z, rfl⟩ := List.length_eq_three.1 h
  rfl

/-- Up to four signs can only encode one group. -/
theorem group_iff_of_length_le {s key : Bytes} (h : s.length ≤ 4) : Group s key ↔ key ≠ [] ∧ s = encode key := by
  rw [group_iff]
  constructor
  · rintro ⟨hne, -, hs⟩
    exact ⟨hne, hs⟩
  · rintro ⟨hne, rfl⟩
    rw [length_encode] at h
    exact ⟨hne, by omega, rfl⟩

/-- Groups are decoded to what they encode, if there are any. -/
theorem decodeFrom_eq_ok_iff {offset : Nat} {s key : Bytes} :
    decodeFrom offset s = .ok key ↔ key ≠ [] ∧ s = encode key := by
  fun_induction decodeFrom offset s generalizing key with
  | case1 offset a b c d r hr =>
    obtain rfl := List.isEmpty_iff.1 hr
    rw [decodeLast_eq_ok_iff, group_iff_of_length_le (s := [a, b, c, d]) (Nat.le_refl 4)]
  | case2 offset a b c d r hr ih =>
    have hr : r ≠ [] := fun h => hr (List.isEmpty_iff.2 h)
    simp only [Outcome.bind_eq_ok_iff, decodeGroup_eq_ok_iff, ih, Except.ok.injEq]
    constructor
    · rintro ⟨first, ⟨hgroup, hlength⟩, rest, ⟨hrest, rfl⟩, rfl⟩
      refine ⟨fun h => hrest (List.append_eq_nil_iff.1 h).2, ?_⟩
      rw [encode_append hlength, ← hgroup.eq_encode]
      rfl
    · rintro ⟨-, hs⟩
      have hlong : 3 < key.length := by
        have hsum := congrArg List.length hs
        have hpos := List.length_pos_iff.2 hr
        rw [length_encode] at hsum
        simp only [List.length_cons] at hsum
        omega
      have hlength : (key.take 3).length = 3 := by
        rw [List.length_take]
        omega
      have hrest : key.drop 3 ≠ [] := fun h => by
        have hle := List.drop_eq_nil_iff.1 h
        omega
      have hfirst : key.take 3 ≠ [] := fun h => by
        rw [h] at hlength
        cases hlength
      rw [← List.take_append_drop 3 key, encode_append hlength] at hs
      have hfour : (encode (key.take 3)).length = 4 := by
        rw [length_encode, hlength]
      have happend : [a, b, c, d] ++ r = encode (key.take 3) ++ encode (key.drop 3) := hs
      obtain ⟨hgroup, hr⟩ := List.append_inj happend hfour.symm
      refine ⟨key.take 3, ⟨group_iff.2 ⟨hfirst, by omega, hgroup⟩, hlength⟩, key.drop 3, ⟨hrest, hr⟩, ?_⟩
      exact List.take_append_drop 3 key
  | case3 offset s hshort =>
    have hlength : s.length ≤ 4 := by
      match s with
      | [] | [_] | [_, _] | [_, _, _] => simp
      | a :: b :: c :: d :: r => exact absurd rfl (hshort a b c d r)
    rw [decodeLast_eq_ok_iff, group_iff_of_length_le hlength]

/-- **A text is decoded** to a byte string exactly if it is its encoding. -/
theorem decode_eq_ok_iff {s key : Bytes} : decode s = .ok key ↔ s = encode key := by
  rw [decode]
  cases hlast : s.getLast? with
  | none =>
    obtain rfl := List.getLast?_eq_none_iff.1 hlast
    rw [eq_comm (a := ([] : Bytes)), encode_eq_nil_iff, Except.ok.injEq, eq_comm]
  | some b =>
    have hs : s ≠ [] := fun h => by
      rw [h] at hlast
      cases hlast
    dsimp only
    split_ifs with hstray
    · -- encodings have no single sign behind the last whole group
      refine iff_of_false (by rintro ⟨⟩) ?_
      rintro rfl
      have hlength := hstray.1
      rw [length_encode] at hlength
      omega
    · rw [decodeFrom_eq_ok_iff]
      refine and_iff_right_of_imp ?_
      rintro rfl rfl
      exact hs rfl

theorem encode_injective {key key' : Bytes} (h : encode key = encode key') : key = key' := by
  have hdecode := decode_eq_ok_iff.2 h
  rw [decode_eq_ok_iff.2 rfl] at hdecode
  exact Except.ok.inj hdecode

/-- The encoding of a byte string, as a text of characters. -/
def text (key : Bytes) : String :=
  String.ofList ((encode key).map fun b => Char.ofNat b.toNat)

theorem encodeUtf8_ascii {bs : Bytes} (h : ∀ b ∈ bs, b.toNat < 128) :
    encodeUtf8 (bs.map fun b => Char.ofNat b.toNat) = bs := by
  induction bs with
  | nil => rfl
  | cons b bs ih =>
    obtain ⟨hb, hbs⟩ := List.forall_mem_cons.1 h
    have hchar : String.utf8EncodeChar (Char.ofNat b.toNat) = [b] := by
      rw [String.utf8EncodeChar, val_ofNat (.inl (by omega)), if_pos (by omega), UInt8.ofNat_toNat]
    rw [List.map_cons, encodeUtf8, List.flatMap_cons, hchar, ← encodeUtf8, ih hbs]
    rfl

theorem encodeUtf8_text (key : Bytes) : encodeUtf8 (text key).toList = encode key := by
  rw [text, String.toList_ofList]
  exact encodeUtf8_ascii (toNat_lt_of_mem_encode key)

/-- A text of characters is decoded to a byte string exactly if it is its encoding. -/
theorem decode_encodeUtf8_eq_ok_iff {s : String} {key : Bytes} :
    decode (encodeUtf8 s.toList) = .ok key ↔ s = text key := by
  rw [decode_eq_ok_iff, ← encodeUtf8_text]
  constructor
  · exact fun h => String.toList_inj.1 (encodeUtf8_injective h)
  · rintro rfl
    rfl

-- one byte is left over behind the first three, and its second symbol must not hold other bits
example : text [102, 111, 111, 98] = "Zm9vYg==" ∧ decode (encodeUtf8 "Zm9vYh==".toList) = .error (.lastSymbol 104 5) := by
  decide

theorem text_injective : Function.Injective text := by
  intro key key' h
  apply encode_injective
  rw [← encodeUtf8_text, h, encodeUtf8_text]

theorem text_eq_empty_iff {key : Bytes} : text key = "" ↔ key = [] := by
  constructor
  · exact fun h => text_injective h
  · rintro rfl
    rfl

end AuthProxy.Secret
