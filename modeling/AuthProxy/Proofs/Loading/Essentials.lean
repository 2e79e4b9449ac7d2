import AuthProxy.Proofs.Binding.Selection
import AuthProxy.Proofs.Check.Conditions
import AuthProxy.Proofs.Loading.Files
import AuthProxy.Proofs.Loading.Layering

/-!
# What must be given

Six values are empty by default, and no configuration passes its checks with one of them empty (`Essential.get_ne_empty`). What a
load finds for such a value was given to it: as the last value of the variable, or else at the path of the field in the file
(`Given`). So a configuration that passes its checks was given all six by whoever runs the proxy (`Loader.given_of_check`).
-/

namespace AuthProxy

open Layer Text

/-- The values that a configuration does not pass its checks without. -/
inductive Essential where
  | urlExternal | urlInternal | cookieSecret | clientId | clientSecret | cluster
deriving DecidableEq

namespace Essential

def field : Essential → Field
  | urlExternal => .providerUrlExternal
  | urlInternal => .providerUrlInternal
  | cookieSecret => .cookieSecret
  | clientId => .clientId
  | clientSecret => .clientSecret
  | cluster => .upstreamCluster

/-- The variable that sets the value. -/
def key : Essential → String
  | urlExternal => "PROVIDER_URL_EXTERNAL"
  | urlInternal => "PROVIDER_URL_INTERNAL"
  | cookieSecret => "SESSION_COOKIE_SECRET"
  | clientId => "CLIENT_ID"
  | clientSecret => "CLIENT_SECRET"
  | cluster => "UPSTREAM_CLUSTER"

def binding (e : Essential) : Binding :=
  ⟨e.key, e.field⟩

def get (c : Configuration) : Essential → String
  | urlExternal => c.provider.urlExternal
  | urlInternal => c.provider.urlInternal
  | cookieSecret => c.session.cookie.secret
  | clientId => c.client.id
  | clientSecret => c.client.secret
  | cluster => c.upstream.cluster

/-- The condition that is on the value. -/
def condition : Essential → Condition
  | urlExternal => .urlExternal
  | urlInternal => .urlInternal
  | cookieSecret => .cookieSecret
  | clientId => .clientId
  | clientSecret => .clientSecret
  | cluster => .cluster

variable {e : Essential} {c : Configuration} {fs : FileSystem} {raw : String} {file : Option String} {base : Tree}

theorem binding_mem_table (e : Essential) : e.binding ∈ Binding.table := by
  cases e <;> decide

theorem get_default (e : Essential) : e.get .default = "" := by
  cases e <;> rfl

/-- An empty value violates the condition that is on it. -/
theorem get_ne_empty_of_holds (h : e.condition.Holds fs c) : e.get c ≠ "" := by
  cases e with
  | urlExternal | urlInternal | cookieSecret => exact h.1
  | clientId | clientSecret | cluster => exact h

/-- No configuration passes its checks with an empty value. -/
theorem get_ne_empty (h : c.check fs = .ok ()) (e : Essential) : e.get c ≠ "" :=
  get_ne_empty_of_holds (Condition.holds_of_check h e.condition)

/-- A variable gives its text as it is. -/
theorem get_of_gives (h : e.binding.Gives raw (Field.get c e.field)) : e.get c = raw := by
  obtain ⟨v, hv, hx⟩ := h
  cases e <;> (cases hv; exact (Except.ok.inj hx).symm)

/-- What is not empty was read from a single value at the path of the field. -/
theorem exists_scalar_of_readField (hbase : base.Sectional) {o : Option e.field.Value}
    (ho : readField file base e.field = .ok o) (hget : Field.get c e.field = o.getD (Field.get .default e.field))
    (hne : e.get c ≠ "") : ∃ b s, base.at? e.field.path = some (.scalar b s) ∧ Located.scalarText s = e.get c := by
  rw [hbase.readField] at ho
  cases hu : base.at? e.field.path with
  | none =>
    rw [hu] at ho
    cases ho
    refine absurd ?_ hne
    rw [← e.get_default]
    cases e <;> exact hget
  | some u =>
    rw [hu] at ho
    obtain ⟨x, hx, rfl⟩ := Outcome.map_eq_ok_iff.1 ho
    cases e <;>
    · obtain ⟨b, s, hscalar, htext⟩ := Located.text_eq_ok_iff.1 hx
      exact ⟨b, s, congrArg some hscalar, (hget.trans htext).symm⟩

end Essential

/-! ## Values in a file -/

/-- A value of a document in words, if it is a single one. -/
def Toml.Value.wording? : Value → Option String
  | .flag b => some (if b then "true" else "false")
  | .integer i => some (String.ofList (Number.signedDecimal i))
  | .float x => some (String.ofList x.text)
  | .text s => some s
  | .dateTime s => some s
  | .list _ | .table _ => none

/-- What is one node of a tree is a single value of the document. -/
theorem Toml.Value.wording?_of_put {v : Value} {b : Bool} {s : Scalar} (h : Tree.put (.ofToml v) .nil = .scalar b s) :
    v.wording? = some (Located.scalarText s) := by
  by_cases htable : v.IsTable
  · cases v with
    | table es =>
      have hput : (Tree.put (.ofToml (.table es)) .nil).IsTable := by
        rw [Tree.ofToml, Tree.put_table]
        exact Tree.isTable_putEntries _ (Tree.isTable_asTable _)
      obtain ⟨b', es', hput⟩ := hput
      rw [h] at hput
      cases hput
    | _ => cases htable
  · rw [Tree.put_ofToml htable] at h
    cases v with
    | table es => exact absurd trivial htable
    | list items => cases h
    | _ =>
      cases h
      rfl

namespace Loader

variable {fs fs' : FileSystem} {l : Loader} {pairs : List (String × String)} {w : Walk} {c : Configuration} {e : Essential}

/-- A value was given to a load: by the last value of the variable, or by the file where the variable does not occur. -/
inductive Given (fs : FileSystem) (l : Loader) (pairs : List (String × String)) (e : Essential) (s : String) : Prop where
  | byVariable (h : IsLastValue pairs e.key s)
  | byFile (h : e.key ∉ pairs.map (·.1)) {t : Toml.Table} (ht : l.document? fs = some t) {v : Toml.Value}
      (hv : (Toml.Value.table t).at? e.field.path = some v) (hs : v.wording? = some s)

/-- What is not empty was given. -/
theorem given_of_ne_empty (hl : l.Sectioned fs) (hc : (l.loadFrom fs pairs w).outcome = .ok c) (hne : e.get c ≠ "") :
    Given fs l pairs e (e.get c) := by
  obtain ⟨base, file, hbase, hfields⟩ := (outcome_eq_ok_iff_fields hl).1 hc
  have hreads := hfields e.binding e.binding_mem_table
  unfold Binding.Reads at hreads
  cases hlast : lastValue? pairs e.binding.key with
  | some raw =>
    rw [hlast] at hreads
    rw [Essential.get_of_gives hreads]
    exact .byVariable (lastValue?_eq_some_iff.1 hlast)
  | none =>
    rw [hlast] at hreads
    obtain ⟨o, ho, hget⟩ := hreads
    obtain ⟨b, s, hat, htext⟩ := Essential.exists_scalar_of_readField (sectional_of_fileTree hl hbase) ho hget hne
    obtain ⟨-, rfl⟩ | ⟨t, ht, rfl⟩ := eq_of_fileTree hbase
    · rw [Tree.at?_empty_of_ne_nil e.field.path_ne_nil] at hat
      cases hat
    have hplain : ¬ (Tree.scalar b s).IsTable := by
      rintro ⟨_, _, h⟩
      cases h
    have hsame := ((hl.apart t ht).same_treeOfFile (w.perm t)).symm
    replace hat := hsame.at?_of_not_isTable hat hplain
    rw [Sources.treeOfFile_eq_put (hl t ht).1, Tree.at?_put_ofToml _ (distinct_of_document? ht)] at hat
    obtain ⟨v, hv, hscalar⟩ := Option.map_eq_some_iff.1 hat
    refine .byFile (lastValue?_eq_none_iff.1 hlast) ht hv ?_
    rw [← htext]
    exact Toml.Value.wording?_of_put hscalar

/-- A variable that occurs settles the value, whatever the file is like. -/
theorem get_of_isLastValue (hc : (l.loadFrom fs pairs w).outcome = .ok c) {raw : String} (h : IsLastValue pairs e.key raw) :
    e.get c = raw := by
  obtain ⟨os, base, file, hos, -, hread⟩ := outcome_eq_ok_iff.1 hc
  obtain ⟨o, ho, hget⟩ := readConfiguration_eq_ok_iff.1 hread e.field
  have happly : e.binding.coercion.apply e.binding.key raw = .ok (.text raw) := by
    cases e <;> rfl
  have hcoerced := Binding.coerced_eq_ok_some_iff.2 ⟨raw, lastValue?_eq_some_iff.2 h, happly⟩
  have hvalue := (readField_override hos e.binding_mem_table hcoerced file).symm.trans ho
  cases e <;>
  · cases hvalue
    exact hget

/-- **No configuration is accepted on defaults.** Where a load gives a configuration that passes its checks, each of the six
    essential values is what it was given, and not empty: the last value of its variable, or what the file has at its path where
    the variable does not occur. So an empty value in a variable always fails the checks, whatever the file has, and without a
    file all six variables occur. -/
theorem given_of_check (fs fs' : FileSystem) (l : Loader) (pairs : List (String × String)) (w : Walk) {c : Configuration}
    (hc : (l.loadFrom fs pairs w).outcome = .ok c) :
    (l.Sectioned fs → c.check fs' = .ok () → ∀ e : Essential, e.get c ≠ "" ∧ Given fs l pairs e (e.get c)) ∧
    (∀ e : Essential, IsLastValue pairs e.key "" → ∃ cause, c.check fs' = .error cause) ∧
    (l.file = none → c.check fs' = .ok () → ∀ e : Essential, e.key ∈ pairs.map (·.1)) := by
  refine ⟨fun hl hcheck e => ?_, fun e hempty => ?_, fun hnone hcheck e => ?_⟩
  · have hne := Essential.get_ne_empty hcheck e
    exact ⟨hne, given_of_ne_empty hl hc hne⟩
  · cases hcheck : c.check fs' with
    | error cause => exact ⟨cause, rfl⟩
    | ok u => exact absurd (get_of_isLastValue hc hempty) (Essential.get_ne_empty hcheck e)
  · cases given_of_ne_empty (sectioned_of_none hnone) hc (Essential.get_ne_empty hcheck e) with
    | byVariable h =>
      obtain ⟨before, after, rfl, -⟩ := h
      simp
    | byFile h ht =>
      rw [document?, hnone] at ht
      cases ht

/-- A file system with one regular file, which sets three of the six values. -/
def clientFile : FileSystem :=
  .single "[client]\nid = \"proxy\"\nsecret = \"old\"\n[upstream]\ncluster = \"local\"\n".toList

/-- Variables that set what is not in the file, and one value of it. -/
def remaining : List (String × String) :=
  [("PROVIDER_URL_EXTERNAL", "https://sso.example.com"), ("PROVIDER_URL_INTERNAL", "http://10.0.0.1:4180/"),
   ("CLIENT_SECRET", ""), ("SESSION_COOKIE_SECRET", "AAAAAAAAAAAAAAAAAAAAAAAAAAAAAAAAAAAAAAAAAAA="), ("CLIENT_SECRET", "new")]

/-- Together they pass the checks; with one more variable, an empty one over the file, they do not. -/
theorem given_of_check_clientFile :
    (∃ c, (loadFrom clientFile ⟨some [99]⟩ remaining {}).outcome = .ok c ∧ c.check clientFile = .ok () ∧
      Given clientFile ⟨some [99]⟩ remaining .cluster c.upstream.cluster ∧ c.client.secret = "new") ∧
    ∃ c, (loadFrom clientFile ⟨some [99]⟩ (remaining ++ [("CLIENT_ID", "")]) {}).outcome = .ok c ∧
      ∃ cause, c.check clientFile = .error cause := by
  have hl : Loader.Sectioned clientFile ⟨some [99]⟩ := by
    decide +kernel
  obtain ⟨c, hc, hcheck, hsecret⟩ : ∃ c, (loadFrom clientFile ⟨some [99]⟩ remaining {}).outcome = .ok c ∧
      c.check clientFile = .ok () ∧ c.client.secret = "new" := by
    refine ⟨{ Configuration.default with
      provider.urlExternal := "https://sso.example.com"
      provider.urlInternal := "http://10.0.0.1:4180/"
      session.cookie.secret := "AAAAAAAAAAAAAAAAAAAAAAAAAAAAAAAAAAAAAAAAAAA="
      client := ⟨"proxy", "new"⟩
      upstream.cluster := "local" }, ?_⟩
    decide +kernel
  obtain ⟨d, hd⟩ : ∃ d, (loadFrom clientFile ⟨some [99]⟩ (remaining ++ [("CLIENT_ID", "")]) {}).outcome = .ok d := by
    refine ⟨{ Configuration.default with
      provider.urlExternal := "https://sso.example.com"
      provider.urlInternal := "http://10.0.0.1:4180/"
      session.cookie.secret := "AAAAAAAAAAAAAAAAAAAAAAAAAAAAAAAAAAAAAAAAAAA="
      client := ⟨"", "new"⟩
      upstream.cluster := "local" }, ?_⟩
    decide +kernel
  obtain ⟨hgiven, -, -⟩ := given_of_check clientFile clientFile ⟨some [99]⟩ remaining {} hc
  obtain ⟨-, hempty, -⟩ := given_of_check clientFile clientFile ⟨some [99]⟩ (remaining ++ [("CLIENT_ID", "")]) {} hd
  refine ⟨⟨c, hc, hcheck, (hgiven hl hcheck .cluster).2, hsecret⟩, d, hd, hempty .clientId ?_⟩
  exact ⟨remaining, [], rfl, List.not_mem_nil⟩

end Loader

end AuthProxy
