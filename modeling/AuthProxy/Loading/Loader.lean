import AuthProxy.Loading.Sources
import AuthProxy.Log.Event

/-!
# Loading a configuration

A loader reads a configuration from variables, over a file if it has one. It logs every override that it applies, and at
its end either the configuration or what is wrong. A load that fails falls back on the defaults, whatever values
were sound.
-/

namespace AuthProxy

open Text

/-- Why a load failed, with the configuration to go on with. -/
structure LoadFault where
  cause : Fault
  fallback : Configuration
deriving Repr, DecidableEq

namespace LoadFault

/-- A failed load falls back on the defaults. -/
def ofFault (cause : Fault) : LoadFault :=
  ⟨cause, .default⟩

def message (f : LoadFault) : String :=
  "failed to load configuration: " ++ f.cause.message

/-- The texts of the causes beneath, from the nearest on. -/
def chain (f : LoadFault) : List String :=
  f.cause.message :: f.cause.chain

end LoadFault

/-- The end of a load: what it logged, and the configuration or the reason that there is none. -/
structure LoadResult where
  events : List Log.Event
  outcome : Outcome LoadFault Configuration

namespace LoadResult

/-- A load that stopped after logging some events. A fault is logged too. -/
def stopped (events : List Log.Event) : Stop Fault → LoadResult
  | .fault cause => ⟨events ++ [.loadFailed cause], report (.ofFault cause)⟩
  | .crash => ⟨events, .error .crash⟩

end LoadResult

/-- What loads configurations: the path of the file that is a layer of them, if there is one. -/
structure Loader where
  file : Option Bytes := none
deriving Repr, DecidableEq

namespace Loader

/-- The loader with another file. -/
def withFile (_ : Loader) (path : Bytes) : Loader :=
  ⟨some path⟩

/-- The event of an override. -/
def overrideEvent (o : Override) : Log.Event :=
  .overrideApplied o.binding.key o.binding.field.dotted

/-- Load a configuration from variables. -/
def loadFrom (fs : FileSystem) (l : Loader) (pairs : List (String × String)) (walk : Walk := {}) : LoadResult :=
  match Sources.ofVariables fs l.file pairs with
  | .error stop => .stopped [] stop
  | .ok sources =>
    let applied := sources.overrides.map overrideEvent
    match sources.read fs walk with
    | .error stop => .stopped applied stop
    | .ok c => ⟨applied ++ [.loaded l.file c.server.port], .ok c⟩

end Loader

end AuthProxy
