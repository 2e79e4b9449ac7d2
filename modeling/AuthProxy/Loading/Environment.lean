import AuthProxy.Loading.Loader

/-!
# Loading from the environment of a process

The variables of a process are byte strings. Those that are bound to no field are ignored, whatever they hold; one that is
bound must be a text. One more variable names the file of a loader that has none.
-/

namespace AuthProxy

open Text

/-- The variables of a process in their order; their names are distinct. -/
abbrev Environment := List (Bytes × Bytes)

namespace Environment

/-- The variable that names the file of a loader. -/
def fileVariable : String := "SSO_PROXY_CONFIG_FILE"

/-- The environment with a variable set: in its place if it is there, and else at the end. -/
def set (env : Environment) (key value : Bytes) : Environment :=
  match env with
  | [] => [(key, value)]
  | (k, v) :: r => if k = key then (k, value) :: r else (k, v) :: set r key value

/-- The value of a variable. -/
def value? (env : Environment) (key : String) : Option Bytes :=
  env.lookup (encodeUtf8 key.toList)

/-- The name of a variable, if it is bound to a field. -/
def boundKey? (name : Bytes) : Option String := do
  let key := String.ofList (← decodeUtf8? name)
  if (Binding.find? key).isSome then some key else none

/-- The bound variables as texts, in order. -/
def boundPairs : Environment → Except Fault (List (String × String))
  | [] => .ok []
  | (name, value) :: r =>
    match boundKey? name with
    | none => boundPairs r
    | some key =>
      match decodeUtf8? value with
      | none => .error (.unreadableVariable key "value is not valid UTF-8")
      | some text => do
        let rest ← boundPairs r
        .ok ((key, String.ofList text) :: rest)

/-- The file that the environment names; a name that is empty or no text counts for nothing. -/
def file? (env : Environment) : Option Bytes :=
  (env.value? fileVariable).filter fun path => path ≠ [] ∧ (decodeUtf8? path).isSome

end Environment

/-- Load a configuration from the variables of a process. -/
def Loader.load (fs : FileSystem) (env : Environment) (l : Loader) (walk : Walk := {}) : LoadResult :=
  match env.boundPairs with
  | .error cause => .stopped [] (.fault cause)
  | .ok pairs => Loader.loadFrom fs ⟨l.file <|> env.file?⟩ pairs walk

end AuthProxy
