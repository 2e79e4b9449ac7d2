import AuthProxy.Proofs.Check.Conditions
import AuthProxy.Proofs.Secret.Canonical
import Mathlib.Data.Set.Function

/-!
# The key of the cookie

What the secret of a cookie is taken for, in terms of encodings: it is accepted exactly if it is the encoding of a key of an
allowed length, and otherwise the fault tells apart no secret, the encoding of something of another length, and no encoding
(`Cookie.key_iff`).
-/

namespace AuthProxy

open Check Text

namespace Cookie

variable {c : Cookie} {key : Bytes} {f : Fault}

theorem key_eq_ok_iff : c.key = .ok key ↔ (key.length = 32 ∨ key.length = 64) ∧ c.secret = Secret.text key := by
  rw [Cookie.key, ← mem_keyLengths]
  split_ifs with hempty
  · -- nothing is encoded in the empty text
    refine iff_of_false (by rintro ⟨⟩) ?_
    rintro ⟨hlength, hsecret⟩
    obtain rfl := Secret.text_eq_empty_iff.1 (hsecret.symm.trans hempty)
    exact absurd hlength (by decide)
  · rw [← Secret.decode_encodeUtf8_eq_ok_iff]
    cases Secret.decode (encodeUtf8 c.secret.toList) with
    | error cause => simp
    | ok other =>
      dsimp only
      split_ifs with hlength
      · simp only [Except.ok.injEq]
        exact ⟨fun h => ⟨h ▸ hlength, h⟩, fun h => h.2⟩
      · refine iff_of_false (by rintro ⟨⟩) ?_
        rintro ⟨hkey, hother⟩
        cases hother
        exact hlength hkey

theorem key_eq_missing_iff : c.key = .error (.missing "cookie.secret") ↔ c.secret = "" := by
  rw [key_eq_error_iff]
  constructor
  · rintro ⟨h⟩
    exact h
  · exact .missing

theorem key_eq_secretLength_iff {n : Nat} : c.key = .error (.secretLength n) ↔
    n ≠ 0 ∧ n ≠ 32 ∧ n ≠ 64 ∧ ∃ key, key.length = n ∧ c.secret = Secret.text key := by
  rw [key_eq_error_iff]
  constructor
  · intro h
    cases h with
    | @length hne key hdecode hlength =>
      have hsecret := Secret.decode_encodeUtf8_eq_ok_iff.1 hdecode
      refine ⟨fun hzero => hne ?_, hlength.1, hlength.2, key, rfl, hsecret⟩
      rw [hsecret, Secret.text_eq_empty_iff]
      exact List.length_eq_zero_iff.1 hzero
  · rintro ⟨hzero, h32, h64, key, rfl, hsecret⟩
    refine .length ?_ (Secret.decode_encodeUtf8_eq_ok_iff.2 hsecret) ⟨h32, h64⟩
    rw [hsecret, ne_eq, Secret.text_eq_empty_iff]
    exact fun h => hzero (List.length_eq_zero_iff.2 h)

theorem exists_key_eq_malformed_iff :
    (∃ cause, c.key = .error (.malformedSecret cause)) ↔ ∀ key, c.secret ≠ Secret.text key := by
  simp only [key_eq_error_iff, ← Secret.decode_encodeUtf8_eq_ok_iff, ne_eq]
  constructor
  · rintro ⟨cause, h⟩ key hdecode
    cases h with
    | malformed hne herror =>
      rw [hdecode] at herror
      cases herror
  · intro h
    cases hdecode : Secret.decode (encodeUtf8 c.secret.toList) with
    | ok key => exact absurd hdecode (h key)
    | error cause =>
      refine ⟨cause, .malformed (fun hempty => ?_) hdecode⟩
      rw [hempty] at hdecode
      cases hdecode

/-- The faults of a key are of three kinds. -/
theorem fault_of_key (h : c.key = .error f) :
    f = .missing "cookie.secret" ∨ (∃ n, f = .secretLength n) ∨ ∃ cause, f = .malformedSecret cause := by
  cases key_eq_error_iff.1 h with
  | missing => exact .inl rfl
  | length => exact .inr (.inl ⟨_, rfl⟩)
  | malformed => exact .inr (.inr ⟨_, rfl⟩)

/-- A cookie without a key fails its check for that reason, whatever name it has. -/
theorem check_of_key_eq_error (h : c.key = .error f) (name : String) : Cookie.check { c with name := name } = .error f := by
  have hkey : Cookie.key { c with name := name } = .error f := h
  rw [Cookie.check, hkey]
  rfl

/-- The encodings of the keys of allowed lengths are the secrets that are accepted, each that of one key. -/
theorem bijOn_text : Set.BijOn Secret.text {key | key.length = 32 ∨ key.length = 64}
    {s | ∃ key, Cookie.key { c with secret := s } = .ok key} := by
  refine ⟨fun key hkey => ⟨key, key_eq_ok_iff.2 ⟨hkey, rfl⟩⟩, Secret.text_injective.injOn, fun s hs => ?_⟩
  obtain ⟨key, hkey⟩ := hs
  obtain ⟨hlength, hsecret⟩ := key_eq_ok_iff.1 hkey
  exact ⟨key, hlength, hsecret.symm⟩

/-- **The key of a cookie** is what its secret encodes. A secret is accepted exactly if it is the encoding of 32 or 64 bytes, so
    that accepted secrets and keys belong to each other one to one and encoding the key gives the secret back. Otherwise the
    fault is that there is no secret, or that it encodes a number of bytes that is not allowed, or in all other cases that it
    is no encoding; and it is the fault of the check as well, whatever the name of the cookie. -/
theorem key_iff (c : Cookie) :
    (∀ key, c.key = .ok key ↔ (key.length = 32 ∨ key.length = 64) ∧ c.secret = Secret.text key) ∧
    Set.BijOn Secret.text {key | key.length = 32 ∨ key.length = 64}
      {s | ∃ key, Cookie.key { c with secret := s } = .ok key} ∧
    (c.key = .error (.missing "cookie.secret") ↔ c.secret = "") ∧
    (∀ n, c.key = .error (.secretLength n) ↔
      n ≠ 0 ∧ n ≠ 32 ∧ n ≠ 64 ∧ ∃ key, key.length = n ∧ c.secret = Secret.text key) ∧
    ((∃ cause, c.key = .error (.malformedSecret cause)) ↔ ∀ key, c.secret ≠ Secret.text key) ∧
    ∀ f, c.key = .error f →
      (f = .missing "cookie.secret" ∨ (∃ n, f = .secretLength n) ∨ ∃ cause, f = .malformedSecret cause) ∧
      ∀ name, Cookie.check { c with name := name } = .error f :=
  ⟨fun _ => key_eq_ok_iff, bijOn_text, key_eq_missing_iff, fun _ => key_eq_secretLength_iff, exists_key_eq_malformed_iff,
    fun _ h => ⟨fault_of_key h, check_of_key_eq_error h⟩⟩

/-- Three bytes are no key, also where the name would be refused as well; and with other bits left over, the same text with
    padding encodes nothing at all. -/
theorem key_iff_short :
    Cookie.check { name := "a b", secret := "QUJD" } = .error (.secretLength 3) ∧
      ∀ key, "QUJ=" ≠ Secret.text key := by
  obtain ⟨-, -, -, hlength, -, hfault⟩ := key_iff { secret := "QUJD" }
  obtain ⟨-, -, -, -, hmalformed, -⟩ := key_iff { secret := "QUJ=" }
  have hshort : Cookie.key { secret := "QUJD" } = .error (.secretLength 3) :=
    (hlength 3).2 ⟨by decide, by decide, by decide, [65, 66, 67], rfl, by decide⟩
  exact ⟨(hfault _ hshort).2 "a b", hmalformed.1 ⟨.lastSymbol 74 2, by decide⟩⟩

end Cookie

end AuthProxy
