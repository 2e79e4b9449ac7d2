import AuthProxy.Proofs.Loading.Layering
import AuthProxy.Proofs.Secrecy.Trees

/-!
# Loads that differ in secrets

Two loads from variables and files that do not differ but in secrets (`hiddenPairs`, `FileSystem.Agrees`) log the same events. They
stop for the same reason, or give configurations that are shown alike (`loadFrom_agrees`).
-/

namespace AuthProxy

open Layer Text

/-! ## Overrides -/

/-- A coerced value hidden. -/
def CoercedValue.hidden : CoercedValue → CoercedValue
  | text s => text (Configuration.hide s)
  | list items => list items

/-- An override hidden, if it is of a secret. -/
def Override.hidden (o : Override) : Override :=
  ⟨o.binding, if o.binding.field ∈ secretFields then o.value.hidden else o.value⟩

theorem Sources.overrideTree_hidden (v : CoercedValue) : overrideTree v.hidden = (overrideTree v).hideText := by
  cases v <;> rfl

/-- Overrides go along with hiding. -/
theorem Sources.hidden_override (os : List Override) : ∀ t : Tree,
    (override t os).hidden = override t.hidden (os.map Override.hidden) := by
  induction os with
  | nil => exact fun t => rfl
  | cons o os ih =>
    intro t
    rw [override_cons, ih, Tree.hidden_putAt _ (not_isTable_overrideTree o.value), List.map_cons, override_cons, Override.hidden]
    split
    · rw [overrideTree_hidden]
    · rfl

/-- The variable of a secret. -/
def IsSecretKey (key : String) : Prop :=
  ∃ b ∈ Binding.table, b.key = key ∧ b.field ∈ secretFields

instance (key : String) : Decidable (IsSecretKey key) :=
  inferInstanceAs (Decidable (∃ b ∈ Binding.table, b.key = key ∧ b.field ∈ secretFields))

theorem isSecretKey_iff {b : Binding} (hb : b ∈ Binding.table) : IsSecretKey b.key ↔ b.field ∈ secretFields := by
  have hall : ∀ b ∈ Binding.table, IsSecretKey b.key ↔ b.field ∈ secretFields := by
    decide +kernel
  exact hall b hb

/-- The value of a variable hidden, if it is the variable of a secret. -/
def hideValue (key value : String) : String :=
  if IsSecretKey key then Configuration.hide value else value

/-- The variables with the values of secrets hidden. -/
def hiddenPairs (pairs : List (String × String)) : List (String × String) :=
  pairs.map fun p => (p.1, hideValue p.1 p.2)

variable {pairs pairs' : List (String × String)}

theorem lastValue?_hiddenPairs (pairs : List (String × String)) (key : String) :
    lastValue? (hiddenPairs pairs) key = (lastValue? pairs key).map (hideValue key) := by
  induction pairs with
  | nil => rfl
  | cons p pairs ih =>
    rw [hiddenPairs, List.map_cons, lastValue?_cons, lastValue?_cons, Option.map_or]
    rw [hiddenPairs] at ih
    rw [ih]
    by_cases hp : p.1 = key
    · rw [if_pos hp, if_pos hp, hp]
      rfl
    · rw [if_neg hp, if_neg hp]
      rfl

/-- A hidden variable is coerced to its hidden value. -/
theorem coerced_hiddenPairs {b : Binding} (hb : b ∈ Binding.table) (pairs : List (String × String)) :
    b.coerced (hiddenPairs pairs) = Option.map (fun v => (Override.mk b v).hidden.value) <$> b.coerced pairs := by
  rw [Binding.coerced, Binding.coerced, lastValue?_hiddenPairs]
  by_cases hf : b.field ∈ secretFields
  · have hcoercion : b.coercion = .text := by
      have hall : ∀ b ∈ Binding.table, b.field ∈ secretFields → b.coercion = .text := by
        decide +kernel
      exact hall b hb hf
    have hvalue : hideValue b.key = Configuration.hide := by
      funext raw
      exact if_pos ((isSecretKey_iff hb).2 hf)
    rw [hvalue]
    cases lastValue? pairs b.key with
    | none => rfl
    | some raw =>
      simp only [Option.map_some, hcoercion, Coercion.apply, Override.hidden, if_pos hf]
      rfl
  · have hvalue : hideValue b.key = id := by
      funext raw
      exact if_neg fun h => hf ((isSecretKey_iff hb).1 h)
    have hkept : (fun v => (Override.mk b v).hidden.value) = id := by
      funext v
      exact if_neg hf
    rw [hvalue, hkept, Option.map_id, Option.map_id, id_map]
    rfl

/-- **Hidden variables** give hidden overrides. -/
theorem collectOverrides_hiddenPairs (pairs : List (String × String)) :
    collectOverrides (hiddenPairs pairs) = List.map Override.hidden <$> collectOverrides pairs := by
  have hof : ∀ bs : List Binding, (∀ b ∈ bs, b ∈ Binding.table) →
      overridesOf (hiddenPairs pairs) bs = List.map Override.hidden <$> overridesOf pairs bs := by
    intro bs
    induction bs with
    | nil => exact fun _ => rfl
    | cons b bs ih =>
      intro hbs
      obtain ⟨hb, hbs⟩ := List.forall_mem_cons.1 hbs
      rw [overridesOf_cons, overridesOf_cons, coerced_hiddenPairs hb, ih hbs]
      cases b.coerced pairs with
      | error stop => rfl
      | ok v =>
        cases overridesOf pairs bs with
        | error stop => rfl
        | ok os => cases v <;> rfl
  exact hof Binding.table fun b hb => hb

/-! ## Files -/

/-- Two contents that do not differ but in secrets: they are the same, or documents with the same keys, whose trees are the same with
    the secrets hidden, in whatever order the keys are put. -/
inductive ContentsAgree : Except String Bytes → Except String Bytes → Prop where
  | same (content : Except String Bytes) : ContentsAgree content content
  | documents {content content' : Bytes} {t t' : Toml.Table} (ht : Sources.documentOf? content = some t)
      (ht' : Sources.documentOf? content' = some t') (keys : t.map (·.1) = t'.map (·.1))
      (trees : ∀ w : Walk, (Sources.treeOfFile (w.keys t)).hidden = (Sources.treeOfFile (w.keys t')).hidden) :
      ContentsAgree (.ok content) (.ok content')

/-- Two file systems that do not differ but in secrets: they have the same files, whose contents agree. Documents are refused with
    the same complaints, and there is the same room in memory. -/
structure FileSystem.Agrees (fs fs' : FileSystem) : Prop where
  workingDirectory : fs.workingDirectory = fs'.workingDirectory
  openFault? : fs.openFault? = fs'.openFault?
  complaint : fs.complaint = fs'.complaint
  room : fs.room = fs'.room
  regular? : ∀ path, Option.Rel ContentsAgree (fs.regular? path) (fs'.regular? path)

/-- One file each, of contents that agree. -/
theorem FileSystem.Agrees.single {text text' : List Char}
    (h : ContentsAgree (.ok (encodeUtf8 text)) (.ok (encodeUtf8 text'))) :
    (FileSystem.single text).Agrees (.single text') where
  workingDirectory := rfl
  openFault? := rfl
  complaint := rfl
  room := rfl
  regular? path := by
    dsimp only [FileSystem.single]
    split
    · exact .some h
    · exact .none

/-- Two layers of one name, whose contents agree. -/
structure FileLayer.Agrees (layer layer' : FileLayer) : Prop where
  name : layer.name = layer'.name
  content : ContentsAgree layer.content layer'.content

section Files

variable {fs fs' : FileSystem}

theorem FileSystem.Agrees.shownPath (h : fs.Agrees fs') (path : List Char) : fs.shownPath path = fs'.shownPath path := by
  rw [FileSystem.shownPath, FileSystem.shownPath, h.workingDirectory]

/-- A path leads to layers that agree, or fails alike. -/
theorem FileSystem.Agrees.fileLayer (h : fs.Agrees fs') (path : Bytes) :
    (∃ stop, Sources.fileLayer fs path = .error stop ∧ Sources.fileLayer fs' path = .error stop) ∨
      ∃ layer layer', Sources.fileLayer fs path = .ok layer ∧ Sources.fileLayer fs' path = .ok layer' ∧
        layer.Agrees layer' := by
  have hregular := h.regular? path
  unfold Sources.fileLayer
  generalize fs.regular? path = file at hregular
  generalize fs'.regular? path = file' at hregular
  cases hregular with
  | none => exact .inl ⟨_, rfl, rfl⟩
  | some hcontent =>
    cases decodeUtf8? path with
    | none => exact .inl ⟨_, rfl, rfl⟩
    | some name => exact .inr ⟨_, _, rfl, rfl, rfl, hcontent⟩

/-- Whether memory holds a document depends on its keys alone. -/
theorem Sources.fits_congr {t t' : Toml.Table} (h : t.map (·.1) = t'.map (·.1)) (room : Nat) : fits room t = fits room t' := by
  have hkeys : ∀ t : Toml.Table, fits room t = (t.map (·.1)).all fun key => (pathOfKey key).all (·.fits room) := by
    intro t
    rw [List.all_map]
    rfl
  rw [hkeys, hkeys, h]

/-- Layers that agree are no documents for the same reason, or documents that agree. -/
theorem FileSystem.Agrees.readFile (h : fs.Agrees fs') {layer layer' : FileLayer} (hlayer : layer.Agrees layer') :
    (∃ misfit, Sources.readFile fs layer = .error misfit ∧ Sources.readFile fs' layer' = .error misfit) ∨
      ∃ t t', Sources.readFile fs layer = .ok t ∧ Sources.readFile fs' layer' = .ok t' ∧ t.map (·.1) = t'.map (·.1) ∧
        ∀ w : Walk, (Sources.treeOfFile (w.keys t)).hidden = (Sources.treeOfFile (w.keys t')).hidden := by
  obtain ⟨name, content⟩ := layer
  obtain ⟨name', content'⟩ := layer'
  obtain ⟨hname, hcontent⟩ := hlayer
  dsimp only at hname hcontent
  subst hname
  cases hcontent with
  | same content =>
    have hread : Sources.readFile fs ⟨name, content⟩ = Sources.readFile fs' ⟨name, content⟩ := by
      rw [Sources.readFile, Sources.readFile, h.complaint, h.shownPath]
    rw [hread]
    cases Sources.readFile fs' ⟨name, content⟩ with
    | error misfit => exact .inl ⟨misfit, rfl, rfl⟩
    | ok t => exact .inr ⟨t, t, rfl, rfl, rfl, fun _ => rfl⟩
  | documents ht ht' keys trees =>
    refine .inr ⟨_, _, ?_, ?_, keys, trees⟩
    · rw [Sources.readFile]
      dsimp only
      rw [ht]
    · rw [Sources.readFile]
      dsimp only
      rw [ht']

/-! ## Loads -/

/-- Two sources that do not differ but in secrets. -/
structure Sources.Agrees (s s' : Sources) : Prop where
  file : Option.Rel FileLayer.Agrees s.file s'.file
  overrides : s.overrides.map Override.hidden = s'.overrides.map Override.hidden

/-- Sources that agree have one tree under their overrides, with the secrets hidden. -/
theorem FileSystem.Agrees.base (h : fs.Agrees fs') {s s' : Sources} (hs : s.Agrees s') (w : Walk) :
    Tree.hidden <$> s.base fs w = Tree.hidden <$> s'.base fs' w := by
  obtain ⟨file, os⟩ := s
  obtain ⟨file', os'⟩ := s'
  obtain ⟨hfile, -⟩ := hs
  cases hfile with
  | none => rfl
  | some hlayer =>
    rw [Sources.base, Sources.base]
    dsimp only
    rcases h.readFile hlayer with ⟨misfit, he, he'⟩ | ⟨t, t', ht, ht', keys, trees⟩
    · rw [he, he']
    · rw [ht, ht', h.room]
      dsimp only
      rw [Sources.fits_congr keys]
      split
      · exact congrArg Except.ok (trees w)
      · rfl

/-- Layers that agree are named alike. -/
theorem FileSystem.Agrees.shownName (h : fs.Agrees fs') {s s' : Sources} (hs : s.Agrees s') :
    s.file.map (fun file => fs.shownPath file.name) = s'.file.map fun file => fs'.shownPath file.name := by
  obtain ⟨file, os⟩ := s
  obtain ⟨file', os'⟩ := s'
  obtain ⟨hfile, -⟩ := hs
  cases hfile with
  | none => rfl
  | some hlayer =>
    rw [Option.map_some, Option.map_some, h.shownPath, hlayer.name]

/-- **Sources that agree** are read alike in one order, as far as it is shown. -/
theorem FileSystem.Agrees.read (h : fs.Agrees fs') {s s' : Sources} (hs : s.Agrees s') (w : Walk) :
    Configuration.redacted <$> s.read fs w = Configuration.redacted <$> s'.read fs' w := by
  have hmap : ∀ x : Reading Configuration, Configuration.redacted <$> x.mapFault Fault.misfit =
      (Configuration.redacted <$> x).mapFault .misfit := by
    intro x
    cases x <;> rfl
  rw [Sources.read, Sources.read, h.shownName hs]
  rcases Outcome.map_eq_map_iff.1 (h.base hs w) with ⟨e, he, he'⟩ | ⟨t, t', ht, ht', hhidden⟩
  · rw [he, he']
    rfl
  · rw [ht, ht']
    change Configuration.redacted <$> Outcome.mapFault _ _ = Configuration.redacted <$> Outcome.mapFault _ _
    rw [hmap, hmap, ← redacted_readConfiguration_hidden, ← redacted_readConfiguration_hidden _ _ (Sources.override t' _),
      Sources.hidden_override, Sources.hidden_override, hhidden, hs.overrides]

/-- Two ends of loads that show the same: the same events, and the same fault or configurations that are shown alike. -/
structure LoadResult.Agrees (r r' : LoadResult) : Prop where
  events : r.events = r'.events
  outcome : Configuration.redacted <$> r.outcome = Configuration.redacted <$> r'.outcome

/-- Variables and files that agree are sources that agree, or fail alike. -/
theorem FileSystem.Agrees.ofVariables (h : fs.Agrees fs') (path : Option Bytes) (hpairs : hiddenPairs pairs = hiddenPairs pairs') :
    (∃ stop, Sources.ofVariables fs path pairs = .error stop ∧ Sources.ofVariables fs' path pairs' = .error stop) ∨
      ∃ s s', Sources.ofVariables fs path pairs = .ok s ∧ Sources.ofVariables fs' path pairs' = .ok s' ∧ s.Agrees s' := by
  have hcollect : List.map Override.hidden <$> collectOverrides pairs = List.map Override.hidden <$> collectOverrides pairs' := by
    rw [← collectOverrides_hiddenPairs, ← collectOverrides_hiddenPairs, hpairs]
  rw [Sources.ofVariables, Sources.ofVariables]
  rcases Outcome.map_eq_map_iff.1 hcollect with ⟨stop, he, he'⟩ | ⟨os, os', hos, hos', hhidden⟩
  · rw [he, he']
    exact .inl ⟨stop, rfl, rfl⟩
  · rw [hos, hos']
    cases path with
    | none => exact .inr ⟨⟨none, os⟩, ⟨none, os'⟩, rfl, rfl, .none, hhidden⟩
    | some path =>
      simp only [bind, Except.bind]
      rcases h.fileLayer path with ⟨stop, he, he'⟩ | ⟨layer, layer', hlayer, hlayer', hagrees⟩
      · rw [he, he']
        exact .inl ⟨stop, rfl, rfl⟩
      · rw [hlayer, hlayer']
        exact .inr ⟨⟨some layer, os⟩, ⟨some layer', os'⟩, rfl, rfl, .some hagrees, hhidden⟩

/-- Overrides that do not differ but in secrets are logged alike. -/
theorem Loader.map_overrideEvent_congr {os os' : List Override} (h : os.map Override.hidden = os'.map Override.hidden) :
    os.map overrideEvent = os'.map overrideEvent := by
  have hevents : ∀ os : List Override, os.map overrideEvent = (os.map Override.hidden).map overrideEvent := by
    intro os
    rw [List.map_map]
    rfl
  rw [hevents, h, ← hevents]

/-- **Loads that do not differ but in secrets** show the same if they go through tables in one order. -/
theorem Loader.loadFrom_agrees (h : fs.Agrees fs') (l : Loader) (hpairs : hiddenPairs pairs = hiddenPairs pairs') (w : Walk) :
    (l.loadFrom fs pairs w).Agrees (l.loadFrom fs' pairs' w) := by
  rw [loadFrom, loadFrom]
  rcases h.ofVariables l.file hpairs with ⟨stop, he, he'⟩ | ⟨s, s', hs, hs', hagrees⟩
  · rw [he, he']
    exact ⟨rfl, rfl⟩
  · rw [hs, hs']
    dsimp only
    rw [map_overrideEvent_congr hagrees.overrides]
    rcases Outcome.map_eq_map_iff.1 (h.read hagrees w) with ⟨stop, he, he'⟩ | ⟨c, c', hc, hc', hredacted⟩
    · rw [he, he']
      exact ⟨rfl, rfl⟩
    · have hport : c.server.port = c'.server.port := by
        change c.redacted.server.port = c'.redacted.server.port
        rw [hredacted]
      rw [hc, hc']
      dsimp only
      rw [hport]
      exact ⟨rfl, congrArg Except.ok hredacted⟩

end Files

end AuthProxy
