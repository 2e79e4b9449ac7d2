import AuthProxy.Configuration.Basic
import AuthProxy.Log.Filter

/-!
# Installing a log

The log of a process is installed once, from the settings of a configuration; it may be switched off. Installing one where
there is one already fails.
-/

namespace AuthProxy.Log

/-- Why no log can be installed. -/
structure InstallFault where
  reason : String
deriving Repr, DecidableEq

def InstallFault.message (f : InstallFault) : String :=
  "Failed to install logger: " ++ f.reason

/-- The filter that settings ask for; nothing if they switch the log off. -/
def install? (settings : Logging) : Outcome Empty (Option Filter) :=
  if settings.enable then some <$> Filter.ofText settings.level else .ok none

/-- The events that pass a filter; none do where nothing is installed. -/
def passed (filter : Option Filter) (events : List Event) : List Event :=
  match filter with
  | some f => events.filter f.logs
  | none => []

end AuthProxy.Log
