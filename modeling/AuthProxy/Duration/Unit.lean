import AuthProxy.Duration.Basic

/-!
# Units of time

The units in which a duration may be written, and their names, which are case-sensitive. A unit has a size for
whole counts and one for the fraction behind a point: a fraction of a minute and below is counted in nanoseconds,
one of an hour and above in whole seconds, and a nanosecond cannot be divided.
-/

namespace AuthProxy.Duration

/-- A unit of time. -/
inductive TimeUnit where
  | nanosecond | microsecond | millisecond | second | minute | hour | day | week | month | year
deriving Repr, DecidableEq

/-- The size of a unit, counted in nanoseconds or in seconds. -/
inductive Size where
  | nanos (n : Nat)
  | seconds (n : Nat)
deriving Repr, DecidableEq

namespace TimeUnit

/-- The names of each unit. -/
def names : TimeUnit → List String
  | nanosecond => ["nanos", "nsec", "ns"]
  | microsecond => ["usec", "us", "µs"]
  | millisecond => ["millis", "msec", "ms"]
  | second => ["seconds", "second", "secs", "sec", "s"]
  | minute => ["minutes", "minute", "min", "mins", "m"]
  | hour => ["hours", "hour", "hr", "hrs", "h"]
  | day => ["days", "day", "d"]
  | week => ["weeks", "week", "wk", "wks", "w"]
  | month => ["months", "month", "M"]
  | year => ["years", "year", "yr", "yrs", "y"]

def all : List TimeUnit :=
  [nanosecond, microsecond, millisecond, second, minute, hour, day, week, month, year]

/-- The unit with a name. -/
def named? (name : List Char) : Option TimeUnit :=
  all.find? fun u => u.names.any fun s => s.toList == name

/-- The size of a whole unit. A month is a twelfth and a year the whole of 365.25 days. -/
def size : TimeUnit → Size
  | nanosecond => .nanos 1
  | microsecond => .nanos 1000
  | millisecond => .nanos 1000000
  | second => .seconds 1
  | minute => .seconds 60
  | hour => .seconds 3600
  | day => .seconds 86400
  | week => .seconds 604800
  | month => .seconds 2630016
  | year => .seconds 31557600

/-- The size that a fraction of the unit is taken of. -/
def fractionSize? : TimeUnit → Option Size
  | nanosecond => none
  | second => some (.nanos 1000000000)
  | minute => some (.nanos 60000000000)
  | u => some u.size

end TimeUnit

end AuthProxy.Duration
