import AuthProxy.Log.Directive
import AuthProxy.Log.Event
import AuthProxy.Text.LowerCase

/-!
# Log filters

A filter is a list of directives. An event is logged when the most specific directive for its target and fields includes
its level; directives with a span or the value of a field select no event of this program, whose events stand in no span,
but they stay part of the filter. The text of a level is read in small letters and without blanks around it; one that is no
filter counts as `info`.
-/

namespace AuthProxy.Log

open Text

/-- The directives of a filter, the most specific first. -/
structure Filter where
  statics : List Directive
  dynamics : List Directive
deriving Repr, DecidableEq

namespace Filter

/-- The filter of some directives; a later one takes the place of an earlier one that selects the same. -/
def ofDirectives (ds : List Directive) : Filter where
  statics := (ds.filter (·.isStatic)).foldl (fun acc d => d.insert acc) []
  dynamics := (ds.filter (·.isDynamic)).foldl (fun acc d => d.insert acc) []

/-- The filter that a list of directives writes, with commas between them. -/
def read (text : List Char) : Outcome Malformed Filter :=
  ofDirectives <$> ((splitAt ',' text).filter (· ≠ [])).mapM Directive.read

/-- The filter that logs at a level and above. -/
def ofLevel (l : Level) : Filter :=
  ofDirectives [{ level := l }]

/-- The filter for the text of a level. -/
def ofText (level : String) : Outcome Empty Filter :=
  match read (lowerCase (trim level.toList)) with
  | .ok f => .ok f
  | .error (.fault _) => .ok (ofLevel .info)
  | .error .crash => .error .crash

/-- The text of a filter: its directives with commas between them. -/
def text (f : Filter) : List Char :=
  [','].intercalate ((f.statics ++ f.dynamics).map (·.text))

/-- Whether a directive selects an event, by its target and the names of its fields. -/
def selects (d : Directive) (e : Event) : Bool :=
  (d.target.all (·.isPrefixOf e.target.toList)) &&
    d.field.all fun m => e.fieldNames.any fun name => name.toList = m.name

/-- Whether an event is logged: the first directive that selects it decides. -/
def logs (f : Filter) (e : Event) : Bool :=
  match f.statics.find? (selects · e) with
  | some d => d.level.includes e.level
  | none => false

end Filter

end AuthProxy.Log
