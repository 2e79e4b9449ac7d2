import AuthProxy.Configuration.Field
import AuthProxy.Duration.Writer
import AuthProxy.Toml.Quoted

/-!
# Writing a configuration as TOML

Every section that has fields of its own is a table with a header, in the order of the sections; the fields stand
one to a line and a blank line separates the tables. A path that is absent is left out.
-/

namespace AuthProxy.Toml

open Number

/-- A list of texts on one line. -/
def writeTexts (xs : List String) : List Char :=
  '[' :: [',', ' '].intercalate (xs.map fun x => writeString x.toList) ++ [']']

/-- The value of a field, if it is to be written. -/
def writeValue? : (k : Kind) → k.Value → Option (List Char)
  | .text, (s : String) => some (writeString s.toList)
  | .flag, (b : Bool) => some (if b then "true".toList else "false".toList)
  | .port, (p : UInt16) => some (decimal p.toNat)
  | .duration, (d : Duration) => some (writeString d.text)
  | .texts, (xs : List String) => some (writeTexts xs)
  | .path, (p : Option String) => p.map fun s => writeString s.toList

/-- The line of a field, if it is to be written. -/
def writeField? (c : Configuration) (f : Field) : Option (List Char) :=
  (writeValue? f.kind (Field.get c f)).map fun v => f.key.toList ++ " = ".toList ++ v ++ ['\n']

/-- The header of a section. -/
def writeHeader (s : Section) : List Char :=
  '[' :: ['.'].intercalate (s.path.map String.toList) ++ [']', '\n']

/-- The table of a section: its header and a line for each of its own fields; nothing if it has none. -/
def writeSection? (c : Configuration) (s : Section) : Option (List Char) :=
  match Field.all.filter (·.owner = s) with
  | [] => none
  | fields => some (writeHeader s ++ (fields.filterMap (writeField? c)).flatten)

/-- The configuration as a TOML document. -/
def write (c : Configuration) : List Char :=
  ['\n'].intercalate (Section.all.filterMap (writeSection? c))

end AuthProxy.Toml
