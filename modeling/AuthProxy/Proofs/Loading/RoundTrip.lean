import AuthProxy.Proofs.Loading.Files
import AuthProxy.Proofs.Toml.RoundTrip

/-!
# Written configurations loaded

A file that holds a written configuration gives the configuration back, to the strict reader and to a load without overrides.
-/

namespace AuthProxy

open Layer Text Toml

/-- **A written configuration** is taken back by the strict reader, and by a load without overrides from any file that holds it, in
    any order. -/
theorem read_write (c : Configuration) : (∀ order, Toml.readConfiguration (write c) order = .ok c) ∧
    ∀ (fs : FileSystem) (path : Bytes) (name : List Char), decodeUtf8? path = some name →
      fs.regular? path = some (.ok (encodeUtf8 (write c))) → ∀ w, (Loader.loadFrom fs ⟨some path⟩ [] w).outcome = .ok c := by
  refine ⟨readConfiguration_write c, fun fs path name hname hfile w => ?_⟩
  obtain ⟨o, es, hparse, hdoc⟩ := exists_parse? c
  exact Loader.loadFrom_of_gives hdoc.gives hparse (fun f => (getD_written c f).symm) hname hfile w

/-- A file system with one regular file, which holds a written configuration. -/
def writtenFile (c : Configuration) : FileSystem :=
  .single (write c)

/-- A configuration with texts that cannot stand in quotes as they are. -/
def escaped : Configuration :=
  { Configuration.default with
    upstream.cluster := "\"a\" 'b'\n\\"
    upstream.configsFile := some "\x00é"
    session.cookie.expire := ⟨2 ^ 64 - 1, 10 ^ 9 - 1, by decide, by decide⟩ }

theorem read_write_escaped : Toml.readConfiguration (write escaped) = .ok escaped ∧
    (Loader.loadFrom (writtenFile escaped) ⟨some [99]⟩ []).outcome = .ok escaped := by
  obtain ⟨hstrict, hload⟩ := read_write escaped
  have hfile : (writtenFile escaped).regular? [99] = some (.ok (encodeUtf8 (write escaped))) := FileSystem.regular?_single _
  exact ⟨hstrict .declared, hload (writtenFile escaped) [99] ['c'] (by decide) hfile {}⟩

end AuthProxy
