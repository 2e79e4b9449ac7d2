import AuthProxy.Proofs.Binding.Selection
import AuthProxy.Proofs.Loading.Crash

/-!
# The stages of a load

A load goes through its variables in the order of the table, then through its file, and last through the fields. At each stage it
can be refused, and the first refusal is the one that is reported: `Loader.Refuses` says which one it is, from the values of the
variables, the file system and the merged tree alone (`Loader.load_stages`). The order in which tables are gone through matters at the
last stage alone. A file may also be the end of a load that is not refused: a key may lead into a list that memory does not hold
(`Loader.crash_hugeIndexFile`).
-/

namespace AuthProxy

open Layer Text

namespace Loader

/-- What is wrong with the file of a loader: it is no regular file, its path is no text, or its content cannot be read or is no
    document. -/
inductive FileFault (fs : FileSystem) (l : Loader) : Fault → Prop
  | notFound {path : Bytes} (hpath : l.file = some path) (hregular : fs.regular? path = none) :
      FileFault fs l (.fileNotFound (String.ofList (decodeLossy path)))
  | strayName {path : Bytes} {content : Except String Bytes} (hpath : l.file = some path)
      (hregular : fs.regular? path = some content) (hname : decodeUtf8? path = none) :
      FileFault fs l (.invalidValue "config file" (String.ofList (decodeLossy path)))
  | unreadable {path : Bytes} {name : List Char} {reason : String} (hpath : l.file = some path)
      (hname : decodeUtf8? path = some name) (hregular : fs.regular? path = some (.error reason)) :
      FileFault fs l (.misfit (.unreadableFile reason))
  | malformed {path content : Bytes} {name : List Char} (hpath : l.file = some path)
      (hname : decodeUtf8? path = some name) (hregular : fs.regular? path = some (.ok content))
      (hdocument : ∀ t, Toml.parse? (Sources.textOfContent content) = some t → Toml.integersFitEntries t = false) :
      FileFault fs l (.misfit (.malformedFile (fs.complaint (Sources.textOfContent content)) (fs.shownPath name)))

/-- The tree that a loader starts from, with the name of its file: that of the document in the file, if there is one that memory
    holds, with its keys put in the order of a walk. -/
inductive StartsFrom (fs : FileSystem) (l : Loader) (w : Walk) : Tree → Option String → Prop
  | empty (hpath : l.file = none) : StartsFrom fs l w .empty none
  | document {path content : Bytes} {name : List Char} {t : Toml.Table} (hpath : l.file = some path)
      (hname : decodeUtf8? path = some name) (hregular : fs.regular? path = some (.ok content))
      (hparse : Toml.parse? (Sources.textOfContent content) = some t) (hfit : Toml.integersFitEntries t = true)
      (hroom : Sources.fits fs.room t = true) :
      StartsFrom fs l w (Sources.treeOfFile (w.keys t)) (some (fs.shownPath name))

/-- Why a load is refused: for the first variable in the order of the table of which the last value cannot be coerced; if all can
    be, for its file; and if that is read as well, for the first field in the order of a walk that the merged tree does not fit. -/
inductive Refuses (fs : FileSystem) (l : Loader) (pairs : List (String × String)) (w : Walk) : Fault → Prop
  | ofVariable {before after : List Binding} {b : Binding} {raw reason : String} (htable : Binding.table = before ++ b :: after)
      (hbefore : ∀ a ∈ before, a.Accepts pairs) (hc : b.coercion = .duration) (hraw : IsLastValue pairs b.key raw)
      (hread : Duration.read raw = report reason) : Refuses fs l pairs w (.unreadableVariable b.key reason)
  | ofFile {cause : Fault} (hvariables : ∀ b ∈ Binding.table, b.Accepts pairs) (hfile : l.FileFault fs cause) :
      Refuses fs l pairs w cause
  | ofField {os : List Override} {base : Tree} {file : Option String} {f : Field} {misfit : Misfit}
      (hos : collectOverrides pairs = .ok os) (htree : l.StartsFrom fs w base file)
      (hfield : StopsAt (readField file (Sources.override base os)) w.fields.fields f (.fault misfit)) :
      Refuses fs l pairs w (.misfit misfit)

section Stages

variable {fs : FileSystem} {l : Loader} {pairs : List (String × String)} {w : Walk} {cause : Fault} {base : Tree}
  {file : Option String}

/-! ## The file -/

/-- A file makes a tree, or has a fault, or memory does not hold what its keys lead to. -/
theorem startsFrom_or_fileFault (fs : FileSystem) (l : Loader) (w : Walk) :
    (∃ base file, l.StartsFrom fs w base file) ∨ (∃ cause, l.FileFault fs cause) ∨ l.OutOfRoom fs := by
  cases hpath : l.file with
  | none => exact .inl ⟨_, _, .empty hpath⟩
  | some path =>
    cases hregular : fs.regular? path with
    | none => exact .inr (.inl ⟨_, .notFound hpath hregular⟩)
    | some content =>
      cases hname : decodeUtf8? path with
      | none => exact .inr (.inl ⟨_, .strayName hpath hregular hname⟩)
      | some name =>
        cases content with
        | error reason => exact .inr (.inl ⟨_, .unreadable hpath hname hregular⟩)
        | ok content =>
          by_cases hdocument : ∃ t, Toml.parse? (Sources.textOfContent content) = some t ∧ Toml.integersFitEntries t = true
          · obtain ⟨t, hparse, hfit⟩ := hdocument
            cases hroom : Sources.fits fs.room t with
            | true => exact .inl ⟨_, _, .document hpath hname hregular hparse hfit hroom⟩
            | false =>
              have ht : l.document? fs = some t :=
                document?_eq_some_iff.2 ⟨⟨path, name, content, hpath, hname, hregular, hparse⟩, hfit⟩
              exact .inr (.inr ⟨t, ht, hroom⟩)
          · refine .inr (.inl ⟨_, .malformed hpath hname hregular fun t hparse => ?_⟩)
            exact Bool.eq_false_of_not_eq_true fun hfit => hdocument ⟨t, hparse, hfit⟩

theorem StartsFrom.fileTree_eq (h : l.StartsFrom fs w base file) : l.fileTree fs w = .ok (base, file) := by
  cases h with
  | empty hpath => exact fileTree_of_none hpath w
  | @document path content name t hpath hname hregular hparse hfit hroom =>
    have hdocument : Sources.documentOf? content = some t := Option.filter_eq_some_iff.2 ⟨hparse, hfit⟩
    simp [fileTree, hpath, Sources.fileLayer, hregular, hname, bind, Except.bind, Sources.base, Sources.readFile, hdocument, hroom]

theorem FileFault.fileTree_eq (h : l.FileFault fs cause) (w : Walk) : l.fileTree fs w = report cause := by
  cases h with
  | notFound hpath hregular =>
    simp [fileTree, hpath, Sources.fileLayer, hregular, bind, Except.bind, report]
  | strayName hpath hregular hname =>
    simp [fileTree, hpath, Sources.fileLayer, hregular, hname, bind, Except.bind, report]
  | unreadable hpath hname hregular =>
    simp [fileTree, hpath, Sources.fileLayer, hregular, hname, bind, Except.bind, Sources.base, Sources.readFile, report]
  | @malformed path content name hpath hname hregular hdocument =>
    have hnone : Sources.documentOf? content = none := by
      rw [Sources.documentOf?, Option.filter_eq_none_iff]
      exact fun t hparse => by simp [hdocument t hparse]
    simp [fileTree, hpath, Sources.fileLayer, hregular, hname, bind, Except.bind, Sources.base, Sources.readFile, hnone, report]

theorem fileTree_eq_ok_iff : l.fileTree fs w = .ok (base, file) ↔ l.StartsFrom fs w base file := by
  refine ⟨fun h => ?_, StartsFrom.fileTree_eq⟩
  rcases startsFrom_or_fileFault fs l w with ⟨base', file', htree⟩ | ⟨cause, hfault⟩ | hroom
  · rw [htree.fileTree_eq] at h
    cases h
    exact htree
  · rw [hfault.fileTree_eq] at h
    cases h
  · rw [fileTree_eq_crash_iff.2 hroom] at h
    cases h

theorem fileTree_eq_fault_iff : l.fileTree fs w = .error (.fault cause) ↔ l.FileFault fs cause := by
  refine ⟨fun h => ?_, fun h => h.fileTree_eq w⟩
  rcases startsFrom_or_fileFault fs l w with ⟨base, file, htree⟩ | ⟨cause', hfault⟩ | hroom
  · rw [htree.fileTree_eq] at h
    cases h
  · rw [hfault.fileTree_eq] at h
    cases h
    exact hfault
  · rw [fileTree_eq_crash_iff.2 hroom] at h
    cases h

/-! ## All stages -/

theorem forall_accepts_iff : (∀ b ∈ Binding.table, b.Accepts pairs) ↔ ∃ os, collectOverrides pairs = .ok os := by
  rw [exists_collectOverrides_iff]
  exact forall₂_congr fun b _ => Binding.exists_coerced_iff.symm

/-- **The fault of a load** is that of the first stage at which it is refused. -/
theorem outcome_eq_report_iff {f : LoadFault} :
    (l.loadFrom fs pairs w).outcome = report f ↔ ∃ cause, l.Refuses fs pairs w cause ∧ f = .ofFault cause := by
  rw [report, outcome_eq_fault_iff]
  refine exists_congr fun cause => ?_
  rw [and_comm]
  refine and_congr_left fun _ => ?_
  constructor
  · rintro (h | ⟨os, hos, h | ⟨base, file, misfit, htree, hmisfit, rfl⟩⟩)
    · obtain ⟨before, b, after, raw, htable, hbefore, hc, hraw, hread⟩ := collectOverrides_eq_error_iff_read.1 h
      obtain ⟨reason, hreason, rfl⟩ := Outcome.mapFault_eq_fault_iff.1 hread
      exact .ofVariable htable hbefore hc hraw hreason
    · exact .ofFile (forall_accepts_iff.2 ⟨os, hos⟩) (fileTree_eq_fault_iff.1 h)
    · obtain ⟨f, hf⟩ := readConfiguration_eq_error_iff.1 hmisfit
      exact .ofField hos (fileTree_eq_ok_iff.1 htree) hf
  · intro h
    cases h with
    | @ofVariable before after b raw reason htable hbefore hc hraw hread =>
      refine .inl (collectOverrides_eq_error_iff_read.2 ⟨before, b, after, raw, htable, hbefore, hc, hraw, ?_⟩)
      exact Outcome.mapFault_eq_fault_iff.2 ⟨reason, hread, rfl⟩
    | ofFile hvariables hfile =>
      obtain ⟨os, hos⟩ := forall_accepts_iff.1 hvariables
      exact .inr ⟨os, hos, .inl (fileTree_eq_fault_iff.2 hfile)⟩
    | @ofField os base file f misfit hos htree hfield =>
      refine .inr ⟨os, hos, .inr ⟨base, file, misfit, fileTree_eq_ok_iff.2 htree, ?_, rfl⟩⟩
      exact readConfiguration_eq_error_iff.2 ⟨f, hfield⟩

/-- In one order there is one such fault at most. -/
theorem Refuses.unique {cause' : Fault} (h : l.Refuses fs pairs w cause) (h' : l.Refuses fs pairs w cause') : cause = cause' := by
  have hreport := outcome_eq_report_iff.2 ⟨cause, h, rfl⟩
  rw [outcome_eq_report_iff.2 ⟨cause', h', rfl⟩] at hreport
  cases hreport
  rfl

/-- Where there is no other refusal in another order, one is for a field. -/
theorem Refuses.of_walk (h : l.Refuses fs pairs w cause) (v : Walk) :
    l.Refuses fs pairs v cause ∨ ∃ f misfit, FieldStops fs l pairs w f (.fault misfit) ∧ cause = .misfit misfit := by
  cases h with
  | ofVariable htable hbefore hc hraw hread => exact .inl (.ofVariable htable hbefore hc hraw hread)
  | ofFile hvariables hfile => exact .inl (.ofFile hvariables hfile)
  | @ofField os base file f misfit hos htree hfield =>
    exact .inr ⟨f, misfit, ⟨os, base, file, hos, htree.fileTree_eq, hfield.error⟩, rfl⟩

/-- A load crashes over a variable, over a key of the file, or over a field of the merged tree. -/
theorem outcome_ne_crash_iff : (l.loadFrom fs pairs w).outcome ≠ .error .crash ↔ ¬ OverfillsVariable pairs ∧
    ∀ os, collectOverrides pairs = .ok os → ¬ l.OutOfRoom fs ∧ ∀ base file, l.StartsFrom fs w base file →
      ¬ OverfillsField w.fields file (Sources.override base os) := by
  rw [ne_eq, load_eq_crash_iff, not_or]
  apply and_congr_right'
  simp only [not_exists, not_and, not_or, fileTree_eq_ok_iff]

/-- A load that is not refused succeeds, unless it crashes. -/
theorem exists_outcome_eq_ok_iff : (∃ c, (l.loadFrom fs pairs w).outcome = .ok c) ↔
    (l.loadFrom fs pairs w).outcome ≠ .error .crash ∧ ∀ cause, ¬ l.Refuses fs pairs w cause := by
  have hrefuses : ∀ cause, l.Refuses fs pairs w cause → (l.loadFrom fs pairs w).outcome = report (.ofFault cause) :=
    fun cause h => outcome_eq_report_iff.2 ⟨cause, h, rfl⟩
  constructor
  · rintro ⟨c, hc⟩
    rw [hc]
    refine ⟨Outcome.ok_ne_crash, fun cause h => ?_⟩
    have hreport := hrefuses cause h
    rw [hc] at hreport
    cases hreport
  · rintro ⟨hcrash, hnone⟩
    match houtcome : (l.loadFrom fs pairs w).outcome with
    | .ok c => exact ⟨c, rfl⟩
    | .error .crash => exact absurd houtcome hcrash
    | .error (.fault f) =>
      obtain ⟨cause, h, -⟩ := outcome_eq_report_iff.1 houtcome
      exact absurd h (hnone cause)

end Stages

/-- **The stages of a load.** A load that fails reports the first stage at which it is refused: the first variable of the table
    that cannot be coerced, whatever the file is; then the file, and last the first field that the merged tree does not fit. In one
    order of the tables there is one such fault at most; another order may name another field, and nothing but a field. Where there
    is no such fault the load succeeds, unless a duration overfills or memory does not hold what a key of the file leads to. With
    every fault come the defaults, whatever values were sound, and a message in front of that of the fault. -/
theorem load_stages (fs : FileSystem) (l : Loader) (pairs : List (String × String)) (w : Walk) :
    (∀ f, (l.loadFrom fs pairs w).outcome = report f ↔ ∃ cause, l.Refuses fs pairs w cause ∧ f = .ofFault cause) ∧
    (∀ cause cause', l.Refuses fs pairs w cause → l.Refuses fs pairs w cause' → cause = cause') ∧
    (∀ v cause, l.Refuses fs pairs w cause →
      l.Refuses fs pairs v cause ∨ ∃ f misfit, FieldStops fs l pairs w f (.fault misfit) ∧ cause = .misfit misfit) ∧
    ((∃ c, (l.loadFrom fs pairs w).outcome = .ok c) ↔
      (¬ OverfillsVariable pairs ∧ ∀ os, collectOverrides pairs = .ok os →
        ¬ l.OutOfRoom fs ∧ ∀ base file, l.StartsFrom fs w base file →
          ¬ OverfillsField w.fields file (Sources.override base os)) ∧
      ∀ cause, ¬ l.Refuses fs pairs w cause) ∧
    ∀ f, (l.loadFrom fs pairs w).outcome = report f →
      f.fallback = .default ∧ f.message = "failed to load configuration: " ++ f.cause.message := by
  refine ⟨fun f => outcome_eq_report_iff, fun _ _ => Refuses.unique, fun v cause h => h.of_walk v, ?_, fun f h => ⟨?_, rfl⟩⟩
  · rw [exists_outcome_eq_ok_iff, outcome_ne_crash_iff]
  · obtain ⟨cause, -, rfl⟩ := outcome_eq_report_iff.1 h
    rfl

/-- A file system with two regular files: one whose name is no text and whose content cannot be read, and one that holds no
    document. -/
def faultyFiles : FileSystem where
  workingDirectory := []
  regular? path :=
    if path = [0xFF] then some (.error "Permission denied") else if path = [99] then some (.ok [61]) else none
  openFault? _ := none

/-- Loads that are wrong in several ways: with a file that is missing, but two durations that are malformed; with a file
    that has no proper name, but cannot be read either; with a file that is malformed, all of them with a port that is none. -/
theorem load_stages_faultyFiles :
    (loadFrom faultyFiles ⟨some [100]⟩
      [("SERVER_PORT", "x"), ("SESSION_TTL_VALID", "m"), ("SESSION_COOKIE_EXPIRE", "s")]).outcome =
        report (.ofFault (.unreadableVariable "SESSION_COOKIE_EXPIRE"
          "invalid duration 's': expected number at 0 (expected e.g. 60s, 3h)")) ∧
    (loadFrom faultyFiles ⟨some [0xFF]⟩ [("SERVER_PORT", "x")]).outcome =
      report (.ofFault (.invalidValue "config file" "\ufffd")) ∧
    (loadFrom faultyFiles ⟨some [99]⟩ [("SERVER_PORT", "x")]).outcome =
      report (.ofFault (.misfit (.malformedFile "TOML parse error" "c"))) := by
  obtain ⟨hvariable, -⟩ := load_stages faultyFiles ⟨some [100]⟩
    [("SERVER_PORT", "x"), ("SESSION_TTL_VALID", "m"), ("SESSION_COOKIE_EXPIRE", "s")] {}
  obtain ⟨hname, -⟩ := load_stages faultyFiles ⟨some [0xFF]⟩ [("SERVER_PORT", "x")] {}
  obtain ⟨hdocument, -⟩ := load_stages faultyFiles ⟨some [99]⟩ [("SERVER_PORT", "x")] {}
  have hport : ∀ b ∈ Binding.table, b.Accepts [("SERVER_PORT", "x")] :=
    forall_accepts_iff.2 ⟨[⟨⟨"SERVER_PORT", .serverPort⟩, .text "x"⟩], by decide +kernel⟩
  have hbefore : ∀ a ∈ Binding.table.take 2,
      a.Accepts [("SERVER_PORT", "x"), ("SESSION_TTL_VALID", "m"), ("SESSION_COOKIE_EXPIRE", "s")] := fun a ha =>
    Binding.exists_coerced_iff.1 ⟨none, Binding.coerced_eq_ok_none_iff.2 (by revert a; decide +kernel)⟩
  have htable : Binding.table =
      Binding.table.take 2 ++ ⟨"SESSION_COOKIE_EXPIRE", .cookieExpire⟩ :: Binding.table.drop 3 := rfl
  have hread : Duration.read "s" = report "invalid duration 's': expected number at 0 (expected e.g. 60s, 3h)" := by
    decide +kernel
  have hstray : FileFault faultyFiles ⟨some [0xFF]⟩ (.invalidValue "config file" "\ufffd") :=
    .strayName rfl rfl (by decide)
  have hmalformed : FileFault faultyFiles ⟨some [99]⟩ (.misfit (.malformedFile "TOML parse error" "c")) := by
    have hparse : Toml.parse? (Sources.textOfContent [61]) = none := by
      decide +kernel
    have hname : Text.decodeUtf8? [99] = some ['c'] := by
      decide +kernel
    refine .malformed rfl hname rfl fun t ht => ?_
    rw [hparse] at ht
    cases ht
  exact ⟨(hvariable _).2 ⟨_, .ofVariable htable hbefore rfl (by decide +kernel) hread, rfl⟩,
    (hname _).2 ⟨_, .ofFile hport hstray, rfl⟩, (hdocument _).2 ⟨_, .ofFile hport hmalformed, rfl⟩⟩

/-- A file with one key, which leads to the last item of a list that no memory holds, beside all fields. -/
def hugeIndexFile : FileSystem :=
  .single "\"x[9223372036854775807]\" = 1\n".toList

/-- It is a document, no stage refuses it, no duration occurs, and yet a load crashes in any order. -/
theorem crash_hugeIndexFile :
    (∃ t, document? hugeIndexFile ⟨some [99]⟩ = some t) ∧ ¬ OverfillsVariable [] ∧
      ∀ w : Walk, (loadFrom hugeIndexFile ⟨some [99]⟩ [] w).outcome = .error .crash ∧
        ∀ cause, ¬ Refuses hugeIndexFile ⟨some [99]⟩ [] w cause := by
  have hoverrides : collectOverrides [] = .ok [] := by
    decide +kernel
  have hroom : OutOfRoom hugeIndexFile ⟨some [99]⟩ := by
    decide +kernel
  have hcrash : ∀ w : Walk, (loadFrom hugeIndexFile ⟨some [99]⟩ [] w).outcome = .error .crash :=
    fun w => load_eq_crash_iff.2 (.inr ⟨[], hoverrides, .inl hroom⟩)
  refine ⟨?_, fun hvariable => ?_, fun w => ⟨hcrash w, fun cause hrefuses => ?_⟩⟩
  · obtain ⟨t, ht, -⟩ := hroom
    exact ⟨t, ht⟩
  · rw [← collectOverrides_eq_crash_iff, hoverrides] at hvariable
    cases hvariable
  · have hreport := outcome_eq_report_iff.2 ⟨cause, hrefuses, rfl⟩
    rw [hcrash] at hreport
    cases hreport

end Loader

end AuthProxy
