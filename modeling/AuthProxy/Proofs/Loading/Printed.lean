import AuthProxy.Command.Run
import AuthProxy.Proofs.Check.Conditions
import AuthProxy.Proofs.Loading.Layering
import AuthProxy.Proofs.Loading.Order
import AuthProxy.Proofs.Loading.RoundTrip
import AuthProxy.Proofs.Secrecy.Trees

/-!
# Printed configurations loaded

A configuration is printed with its secrets hidden. A file of what was printed gives the configuration that is shown, which the
placeholder keeps from passing its checks (`Configuration.check_redacted`). With the variables of the three secrets over the
file the configuration comes back as it was (`Loader.outcome_render`).
-/

namespace AuthProxy

open Layer Text

/-- There is a file with a text at a path that is a text itself. -/
def FileSystem.HasText (fs : FileSystem) (path : Bytes) (s : List Char) : Prop :=
  (decodeUtf8? path).isSome ∧ fs.regular? path = some (.ok (encodeUtf8 s))

/-- The value of a field is empty. -/
def Kind.IsEmpty : (k : Kind) → k.Value → Prop
  | .text, (s : String) => s = ""
  | .texts, (xs : List String) => xs = []
  | .path, (p : Option String) => p = none ∨ p = some ""
  | .flag, _ | .port, _ | .duration, _ => False

namespace Configuration

/-- The variables that the secrets of a configuration are given by. -/
def secretPairs (c : Configuration) : List (String × String) :=
  [("SESSION_COOKIE_SECRET", c.session.cookie.secret), ("CLIENT_SECRET", c.client.secret),
   ("REQUESTSIGNER_KEY", c.requestSigner.key)]

/-- The same fields are empty where the secrets are hidden. -/
theorem isEmpty_get_redacted_iff (c : Configuration) (f : Field) :
    f.kind.IsEmpty (Field.get c.redacted f) ↔ f.kind.IsEmpty (Field.get c f) := by
  by_cases hf : f ∈ secretFields
  · rw [get_redacted]
    simp only [secretFields, List.mem_cons, List.not_mem_nil, or_false] at hf
    rcases hf with rfl | rfl | rfl
    · exact hide_eq_empty_iff
    · exact hide_eq_empty_iff
    · exact hide_eq_empty_iff
  · rw [get_redacted, Field.redact_of_not_mem hf]

/-- The placeholder is no key, and neither is nothing. -/
theorem not_isSecret_hide (s : String) : ¬ IsSecret (hide s) := by
  have hplaceholder : (Secret.decode (encodeUtf8 placeholder.toList)).toOption = none := by
    decide +kernel
  rintro ⟨hne, key, hkey, -⟩
  have hhide : hide s = placeholder := if_neg fun hs => hne (hide_eq_empty_iff.2 hs)
  rw [hhide] at hkey
  rw [hkey] at hplaceholder
  cases hplaceholder

/-- **A configuration with its secrets hidden** does not pass its checks. -/
theorem check_redacted (fs : FileSystem) (c : Configuration) : ∃ cause, c.redacted.check fs = .error cause := by
  cases h : c.redacted.check fs with
  | error cause => exact ⟨cause, rfl⟩
  | ok u => exact absurd (Condition.holds_of_check h .cookieSecret) (not_isSecret_hide _)

end Configuration

/-- The variable of each secret gives it its value, and no other variable occurs. -/
theorem lastValue?_secretPairs (c : Configuration) {b : Binding} (hb : b ∈ Binding.table) :
    (b.field ∈ secretFields → ∃ raw, lastValue? c.secretPairs b.key = some raw ∧ b.Gives raw (Field.get c b.field)) ∧
    (b.field ∉ secretFields → lastValue? c.secretPairs b.key = none) := by
  constructor
  · intro hf
    have hsecrets : ∀ b ∈ Binding.table, b.field ∈ secretFields → b = ⟨"SESSION_COOKIE_SECRET", .cookieSecret⟩ ∨
        b = ⟨"CLIENT_SECRET", .clientSecret⟩ ∨ b = ⟨"REQUESTSIGNER_KEY", .requestSignerKey⟩ := by
      decide +kernel
    rcases hsecrets b hb hf with rfl | rfl | rfl
    · exact ⟨_, rfl, .text _, rfl, rfl⟩
    · exact ⟨_, rfl, .text _, rfl, rfl⟩
    · exact ⟨_, rfl, .text _, rfl, rfl⟩
  · intro hf
    have hothers : ∀ b ∈ Binding.table, b.field ∉ secretFields →
        b.key ∉ ["SESSION_COOKIE_SECRET", "CLIENT_SECRET", "REQUESTSIGNER_KEY"] := by
      decide +kernel
    exact lastValue?_eq_none (hothers b hb hf)

namespace Loader

variable {fs : FileSystem} {path : Bytes} {pairs : List (String × String)} {c d : Configuration}

/-- A file that holds a written configuration makes a tree that gives the configuration, in any order of its keys. -/
theorem exists_fileTree_write (h : fs.HasText path (Toml.write d)) : ∃ t file, Toml.Gives t (Toml.written d) ∧
    ∀ w : Walk, fileTree fs ⟨some path⟩ w = .ok (Sources.treeOfFile (w.keys t), file) := by
  obtain ⟨hpath, hfile⟩ := h
  obtain ⟨name, hname⟩ := Option.isSome_iff_exists.1 hpath
  obtain ⟨o, es, hparse, hdoc⟩ := Toml.exists_parse? d
  exact ⟨_, _, hdoc.gives, fileTree_of_parse? hparse hdoc.gives.fits hdoc.gives.apart.fits hname hfile⟩

/-- **Variables over a written configuration** give the fields that they set their values, and leave the others. -/
theorem outcome_over_write (h : fs.HasText path (Toml.write d))
    (hset : ∀ b ∈ Binding.table, ∀ raw, lastValue? pairs b.key = some raw → b.Gives raw (Field.get c b.field))
    (hunset : ∀ b ∈ Binding.table, lastValue? pairs b.key = none → Field.get c b.field = Field.get d b.field) (w : Walk) :
    (loadFrom fs ⟨some path⟩ pairs w).outcome = .ok c := by
  obtain ⟨t, file, hgives, htree⟩ := exists_fileTree_write h
  refine outcome_of_reads (hgives.sectional_treeOfFile (w.perm t)) (htree w) fun b hb => ?_
  unfold Binding.Reads
  cases hlast : lastValue? pairs b.key with
  | some raw => exact hset b hb raw hlast
  | none =>
    refine ⟨Toml.written d b.field, hgives.readField_treeOfFile (w.perm t) file b.field, ?_⟩
    rw [Toml.getD_written]
    exact hunset b hb hlast

/-- A printed configuration is loaded as it is shown. -/
theorem outcome_render_redacted (h : fs.HasText path (Command.render c).toList) (w : Walk) :
    (loadFrom fs ⟨some path⟩ [] w).outcome = .ok c.redacted := by
  rw [Command.render, String.toList_ofList] at h
  refine outcome_over_write h (fun b _ raw hraw => ?_) (fun b _ _ => rfl) w
  rw [lastValue?_eq_none List.not_mem_nil] at hraw
  cases hraw

/-- With the variables of the secrets it is loaded as it was. -/
theorem outcome_render (h : fs.HasText path (Command.render c).toList) (hpairs : pairs.Perm c.secretPairs) (w : Walk) :
    (loadFrom fs ⟨some path⟩ pairs w).outcome = .ok c := by
  have hkeys : (pairs.map (·.1)).Nodup := by
    apply (hpairs.map _).nodup_iff.2
    show ["SESSION_COOKIE_SECRET", "CLIENT_SECRET", "REQUESTSIGNER_KEY"].Nodup
    decide
  rw [Command.render, String.toList_ofList] at h
  rw [loadFrom_of_perm hkeys hpairs]
  refine outcome_over_write h (fun b hb raw hraw => ?_) (fun b hb hnone => ?_) w
  · by_cases hf : b.field ∈ secretFields
    · obtain ⟨raw', hraw', hgives⟩ := (lastValue?_secretPairs c hb).1 hf
      cases hraw.symm.trans hraw'
      exact hgives
    · rw [(lastValue?_secretPairs c hb).2 hf] at hraw
      cases hraw
  · by_cases hf : b.field ∈ secretFields
    · obtain ⟨raw, hraw, -⟩ := (lastValue?_secretPairs c hb).1 hf
      cases hraw.symm.trans hnone
    · rw [Configuration.get_redacted, Field.redact_of_not_mem hf]

end Loader

/-- **A printed configuration**, loaded from a file, is the configuration with its secrets hidden. This differs in the secrets
    alone, has the same fields empty, is shown as it is, and never passes its checks. The variables of the secrets, in any order,
    bring back the configuration that was printed. -/
theorem Configuration.load_render (c : Configuration) :
    (∀ (fs : FileSystem) (path : Bytes) (w : Walk), fs.HasText path (Command.render c).toList →
      (Loader.loadFrom fs ⟨some path⟩ [] w).outcome = .ok c.redacted ∧
      ∀ pairs, pairs.Perm c.secretPairs → (Loader.loadFrom fs ⟨some path⟩ pairs w).outcome = .ok c) ∧
    (∀ f ∉ secretFields, Field.get c.redacted f = Field.get c f) ∧
    (∀ f : Field, f.kind.IsEmpty (Field.get c.redacted f) ↔ f.kind.IsEmpty (Field.get c f)) ∧
    c.redacted.redacted = c.redacted ∧
    ∀ fs : FileSystem, ∃ cause, c.redacted.check fs = .error cause := by
  refine ⟨fun fs path w h => ?_, fun f hf => ?_, isEmpty_get_redacted_iff c, redacted_redacted c, ?_⟩
  · exact ⟨Loader.outcome_render_redacted h w, fun pairs hpairs => Loader.outcome_render h hpairs w⟩
  · rw [get_redacted, Field.redact_of_not_mem hf]
  · exact fun fs => check_redacted fs c

/-- A file system with one regular file, which holds a printed configuration. -/
def printedFile (c : Configuration) : FileSystem :=
  .single (Command.render c).toList

/-- A configuration with secrets that are the placeholder itself, a quoted text, and none. -/
def disguised : Configuration :=
  { Configuration.default with
    session.cookie.secret := Configuration.placeholder
    client.secret := "\"\n\\'"
    upstream.cluster := "prod" }

theorem Configuration.load_render_disguised :
    (Loader.loadFrom (printedFile disguised) ⟨some [99]⟩ [] {}).outcome =
      .ok { disguised with client.secret := Configuration.placeholder } ∧
    (Loader.loadFrom (printedFile disguised) ⟨some [99]⟩ disguised.secretPairs.reverse {}).outcome = .ok disguised := by
  obtain ⟨hload, -⟩ := Configuration.load_render disguised
  have hfile : (printedFile disguised).HasText [99] (Command.render disguised).toList :=
    ⟨by decide, FileSystem.regular?_single _⟩
  obtain ⟨hshown, hback⟩ := hload (printedFile disguised) [99] {} hfile
  exact ⟨hshown, hback _ (List.reverse_perm _)⟩

end AuthProxy
