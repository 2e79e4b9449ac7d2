import AuthProxy.Fault
import Mathlib.Data.List.Chain
import Mathlib.Data.List.Infix

/-!
# Faults within sections

A fault is wrapped in the labels of the sections that it is found in (`Fault.inSections`); every fault is one that is not
wrapped under some labels, perhaps under none (`Fault.exists_inSections`). What is right beneath a fault is its source: the fault
that a label is put on, or what a reader or the file system reports (`Fault.source?`). From source to source one comes by all the
faults under fewer labels down to the one without any, and from there to what was reported to it (`descends_inSections`); each of
them is told at the end of the text of the one above it (`suffix_of_source`).
-/

namespace AuthProxy

/-! ## What is beneath a fault -/

/-- What a fault is about: another fault, or what a reader or the file system reports. -/
inductive Cause where
  | fault (f : Fault)
  | url (m : Url.Malformed)
  | secret (m : Secret.Malformed)
  | file (m : OpenFault)
  | misfit (m : Layer.Misfit)
deriving DecidableEq

/-- A cause in words. -/
def Cause.message : Cause → String
  | fault f => f.message
  | url m => m.message
  | secret m => String.ofList m.message
  | file m => m.message
  | misfit m => m.message

namespace Fault

/-- What a reader or the file system reports to a fault. -/
def reported? : Fault → Option Cause
  | malformedUrl _ m => some (.url m)
  | malformedSecret m => some (.secret m)
  | unopenableFile _ _ m => some (.file m)
  | misfit m => some (.misfit m)
  | _ => none

/-- What is right beneath a fault: the fault that its label is put on, or what is reported to it. -/
def source? : Fault → Option Cause
  | inSection _ f => some (.fault f)
  | f => f.reported?

/-- A fault with a label. -/
def IsSection (f : Fault) : Prop :=
  ∃ label cause, f = .inSection label cause

/-- A fault in the sections of some labels, the outermost first. -/
def inSections (labels : List String) (f : Fault) : Fault :=
  labels.foldr .inSection f

/-- The words that a label is put in front of a fault with. -/
def labelText (label : String) : String :=
  "invalid " ++ label ++ " config: "

end Fault

/-- Only faults have something beneath them. -/
def Cause.source? : Cause → Option Cause
  | fault f => f.source?
  | url _ | secret _ | file _ | misfit _ => none

/-- Some causes lead down from a first one, each being the source of the one before, to one that has none. -/
inductive Descends : Option Cause → List Cause → Prop where
  | nil : Descends none []
  | cons {c : Cause} {cs : List Cause} (h : Descends c.source? cs) : Descends (some c) (c :: cs)

namespace Fault

variable {f r : Fault} {c : Cause} {labels : List String}

/-! ## Labels -/

/-- Every fault is one without a label, under some labels. -/
theorem exists_inSections (f : Fault) : ∃ labels r, ¬ r.IsSection ∧ f = inSections labels r := by
  induction f with
  | inSection label f ih =>
    obtain ⟨labels, r, hr, rfl⟩ := ih
    exact ⟨label :: labels, r, hr, rfl⟩
  | missing | invalidValue | malformedUrl | incompleteUrl | malformedSecret | secretLength | unopenableFile
  | unreadableVariable | fileNotFound | misfit =>
    refine ⟨[], _, ?_, rfl⟩
    rintro ⟨label, cause, h⟩
    cases h

theorem rootCause_of_not_isSection (hr : ¬ r.IsSection) : r.rootCause = r := by
  cases r with
  | inSection label f => exact absurd ⟨label, f, rfl⟩ hr
  | _ => rfl

theorem rootCause_inSections (hr : ¬ r.IsSection) (labels : List String) : (inSections labels r).rootCause = r := by
  induction labels with
  | nil => exact rootCause_of_not_isSection hr
  | cons label labels ih => exact ih

/-- At the bottom of a fault there is none with a label. -/
theorem not_isSection_rootCause (f : Fault) : ¬ f.rootCause.IsSection := by
  obtain ⟨labels, r, hr, rfl⟩ := f.exists_inSections
  rwa [rootCause_inSections hr]

/-- The labels are told in front, the outermost first. -/
theorem message_inSections (labels : List String) (f : Fault) :
    (inSections labels f).message = String.join (labels.map labelText) ++ f.message := by
  induction labels with
  | nil =>
    rw [List.map_nil, String.join_nil, String.empty_append]
    rfl
  | cons label labels ih =>
    rw [List.map_cons, String.join_cons, String.append_assoc, ← ih]
    rfl

/-! ## Sources -/

theorem source?_of_not_isSection (hr : ¬ r.IsSection) : r.source? = r.reported? := by
  cases r with
  | inSection label f => exact absurd ⟨label, f, rfl⟩ hr
  | _ => rfl

theorem chain_of_not_isSection (hr : ¬ r.IsSection) : r.chain = r.reported?.toList.map Cause.message := by
  cases r with
  | inSection label f => exact absurd ⟨label, f, rfl⟩ hr
  | _ => rfl

/-- What is reported to a fault has nothing beneath it. -/
theorem descends_reported? (f : Fault) : Descends f.reported? f.reported?.toList := by
  cases f with
  | malformedUrl | malformedSecret | unopenableFile | misfit => exact .cons .nil
  | missing | invalidValue | incompleteUrl | secretLength | inSection | unreadableVariable | fileNotFound => exact .nil

/-- The causes beneath a fault under some labels: the faults under fewer of them, and what is reported to the last. -/
def causesBeneath (labels : List String) (r : Fault) : List Cause :=
  labels.tails.tail.map (fun inner => .fault (inSections inner r)) ++ r.reported?.toList

theorem causesBeneath_cons (label : String) (labels : List String) (r : Fault) :
    causesBeneath (label :: labels) r = .fault (inSections labels r) :: causesBeneath labels r := by
  cases labels <;> rfl

theorem descends_inSections (hr : ¬ r.IsSection) (labels : List String) :
    Descends (inSections labels r).source? (causesBeneath labels r) := by
  induction labels with
  | nil =>
    have hsource : (inSections [] r).source? = r.reported? := source?_of_not_isSection hr
    rw [hsource]
    exact r.descends_reported?
  | cons label labels ih =>
    rw [causesBeneath_cons]
    exact .cons ih

theorem chain_inSections (hr : ¬ r.IsSection) (labels : List String) :
    (inSections labels r).chain = (causesBeneath labels r).map Cause.message := by
  induction labels with
  | nil => exact chain_of_not_isSection hr
  | cons label labels ih =>
    rw [causesBeneath_cons, List.map_cons, ← ih]
    rfl

/-- The source of a fault is told at its end. -/
theorem suffix_of_source (h : f.source? = some c) : c.message.toList <:+ f.message.toList := by
  have hsuffix : ∀ s t : String, t.toList <:+ (s ++ t).toList := by
    intro s t
    rw [String.toList_append]
    exact List.suffix_append _ _
  cases f with
  | inSection | malformedUrl | malformedSecret | unopenableFile | misfit =>
    cases h
    exact hsuffix _ _
  | missing | invalidValue | incompleteUrl | secretLength | unreadableVariable | fileNotFound => cases h

/-- So are the texts on the way down, each at the end of the one before. -/
theorem isChain_of_descends {source : Option Cause} {causes : List Cause} (h : Descends source causes) :
    ∀ f : Fault, f.source? = source →
      ((f.message :: causes.map Cause.message).IsChain fun s t => t.toList <:+ s.toList) := by
  induction h with
  | nil => exact fun f _ => .singleton _
  | @cons c causes h ih =>
    intro f hf
    rw [List.map_cons, List.isChain_cons_cons]
    refine ⟨suffix_of_source hf, ?_⟩
    cases c with
    | fault f' => exact ih f' rfl
    | url m | secret m | file m | misfit m =>
      cases h
      exact .singleton _

/-- **A fault under labels** is found again beneath them, and every word of it is told. At its root is the fault itself, which has
    no label; its text is that of the fault behind those of the labels, the outermost first. From source to source it leads to one
    fault for each label, of which the last is the fault itself, and from there to what was reported to that, where there is
    nothing more beneath; and each of their texts is the end of the one before. -/
theorem sources_inSections (labels : List String) (r : Fault) (hr : ¬ r.IsSection) :
    (inSections labels r).rootCause = r ∧ (∀ f : Fault, ¬ f.rootCause.IsSection) ∧
    (inSections labels r).message = String.join (labels.map fun label => "invalid " ++ label ++ " config: ") ++ r.message ∧
    (∃ causes, causes = labels.tails.tail.map (fun inner => .fault (inSections inner r)) ++ r.reported?.toList ∧
      Descends (inSections labels r).source? causes ∧ (inSections labels r).chain = causes.map Cause.message) ∧
    ((inSections labels r).message :: (inSections labels r).chain).IsChain fun s t => t.toList <:+ s.toList := by
  have hdescends := descends_inSections hr labels
  refine ⟨rootCause_inSections hr labels, not_isSection_rootCause, message_inSections labels r,
    ⟨_, rfl, hdescends, chain_inSections hr labels⟩, ?_⟩
  rw [chain_inSections hr]
  exact isChain_of_descends hdescends _ rfl

/-- A secret of a cookie that is no base64, as the check of a configuration reports it. -/
theorem sources_inSections_unpadded :
    let r : Fault := .malformedSecret .badPadding
    let e : Fault := .inSection "session" (.inSection "session.cookie" r)
    ¬ r.IsSection ∧ e.rootCause = r ∧ e.message = "invalid session config: invalid session.cookie config: " ++ r.message ∧
    Descends e.source? [.fault (.inSection "session.cookie" r), .fault r, .secret .badPadding] ∧
    e.chain = [(inSection "session.cookie" r).message, r.message, "Invalid padding"] ∧
    (e.message :: e.chain).IsChain fun s t => t.toList <:+ s.toList := by
  have hr : ¬ (malformedSecret .badPadding).IsSection := by
    rintro ⟨label, cause, h⟩
    cases h
  obtain ⟨hroot, -, hmessage, ⟨_, rfl, hdescends, hchain⟩, hsuffix⟩ :=
    sources_inSections ["session", "session.cookie"] (.malformedSecret .badPadding) hr
  exact ⟨hr, hroot, hmessage, hdescends, hchain, hsuffix⟩

end Fault

end AuthProxy
