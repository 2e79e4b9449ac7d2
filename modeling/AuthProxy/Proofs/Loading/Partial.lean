import AuthProxy.Proofs.Loading.Files
import AuthProxy.Proofs.Toml.Partial

/-!
# Files that give some of the fields

A load without overrides, from a file that holds a document with some of the fields, finds what the strict reader finds
(`read_partial`): what is given, and the defaults of all other fields.
-/

namespace AuthProxy

open Layer Text Toml

/-- **A document that gives some of the fields**, whichever these are, is read by the strict reader and by a load without
    overrides from any file that holds it, in any order, and all of them give one configuration: what is given, and the defaults of
    all other fields. -/
theorem read_partial {s : List Char} {t : Table} (hparse : parse? s = some t) {values : (f : Field) → Option f.Value}
    (h : ConsistsOf t values) : ∃ c, (∀ order, Toml.readConfiguration s order = .ok c) ∧
      (∀ (fs : FileSystem) (path : Bytes) (name : List Char), decodeUtf8? path = some name →
        fs.regular? path = some (.ok (encodeUtf8 s)) → ∀ w, (Loader.loadFrom fs ⟨some path⟩ [] w).outcome = .ok c) ∧
      ∀ f, Field.get c f = (values f).getD (Field.get .default f) := by
  obtain ⟨c, hc⟩ := exists_configuration values
  have hgives : Gives t values := h.gives (distinct_of_parse? hparse)
  exact ⟨c, hgives.readConfiguration hparse hc,
    fun fs path name hname hfile w => Loader.loadFrom_of_gives hgives hparse hc hname hfile w, hc⟩

/-- A text that gives two of the fields, one of them in an inline table. -/
def partialText : List Char :=
  "[server]\nport = 9\n[session]\nttl = \x7bvalid = \"90s\"\x7d\n".toList

/-- A file system with one regular file, which holds the text. -/
def partialFile : FileSystem :=
  .single partialText

/-- The values of the two fields. -/
def partialValues : (f : Field) → Option f.Value
  | .serverPort => some (9 : UInt16)
  | .ttlValid => some (.ofSeconds 90)
  | _ => none

/-- The document in the text consists of these two. -/
theorem consistsOf_partialValues {t : Table} (ht : parse? partialText = some t) : ConsistsOf t partialValues where
  fields f x hx := by
    have hall : ∀ t ∈ parse? partialText, ∀ f ∈ Field.all, ∀ x ∈ partialValues f, ∃ c ∈ (Value.table t).contents,
        c.1 = f.path ∧ c.2.ofKind .malformed f.kind = .ok x := by
      decide +kernel
    obtain ⟨⟨path, w⟩, hw, rfl, hx⟩ := hall t ht f f.mem_all x hx
    exact ⟨w, hw, Value.spells_of_ofKind hx⟩
  leaves := by
    have hall : ∀ t ∈ parse? partialText, ∀ c ∈ (Value.table t).contents, ¬ c.2.IsTable →
        ∃ f ∈ Field.all, c.1 = f.path ∧ (partialValues f).isSome := by
      decide +kernel
    intro c hc hplain
    obtain ⟨f, -, hf⟩ := hall t ht c hc hplain
    exact ⟨f, hf⟩
  tables := by
    have hall : ∀ t ∈ parse? partialText, ∀ c ∈ (Value.table t).contents, c.2.IsTable →
        ∃ s ∈ Section.all, c.1 = s.path := by
      decide +kernel
    intro c hc htable
    obtain ⟨s, -, hs⟩ := hall t ht c hc htable
    exact ⟨s, hs⟩

/-- The other fields of the two sections, and all other sections, have their defaults. -/
theorem read_partial_partialFile : ∃ c, Toml.readConfiguration partialText = .ok c ∧
    (Loader.loadFrom partialFile ⟨some [99]⟩ []).outcome = .ok c ∧
    c.server.port = 9 ∧ c.session.ttl.valid = .ofSeconds 90 ∧
    c.session.ttl.lifetime = Configuration.default.session.ttl.lifetime ∧
    c.logging.level = Configuration.default.logging.level := by
  obtain ⟨t, ht⟩ : ∃ t, parse? partialText = some t := by
    apply Option.isSome_iff_exists.1
    decide +kernel
  obtain ⟨c, hstrict, hload, hc⟩ := read_partial ht (consistsOf_partialValues ht)
  have hfile : partialFile.regular? [99] = some (.ok (encodeUtf8 partialText)) := FileSystem.regular?_single partialText
  have houtcome : (Loader.loadFrom partialFile ⟨some [99]⟩ []).outcome = .ok c :=
    hload partialFile [99] ['c'] (by decide) hfile {}
  exact ⟨c, hstrict .declared, houtcome, hc .serverPort, hc .ttlValid, hc .ttlLifetime, hc .loggingLevel⟩

end AuthProxy
