import BoundSql.Duration

/-!
# Settings of an execution

How long a call may take, and how statements are logged.
-/

namespace BoundSql

/-- The level of a log event. -/
inductive Level
  | error
  | warn
  | info
  | debug
  | trace
deriving DecidableEq

/-- The name of a level. -/
def Level.name : Level → String
  | .error => "ERROR"
  | .warn => "WARN"
  | .info => "INFO"
  | .debug => "DEBUG"
  | .trace => "TRACE"

/-- The settings of an execution. -/
structure Settings where
  /-- The longest time that a call may take; without it a call may take any time. -/
  timeout : Option Duration
  /-- The level at which statements are logged. -/
  logLevel : Level
  /-- The number of bytes of SQL text that are logged; without it all are. -/
  maxSqlBytes : Option Nat
deriving DecidableEq

namespace Settings

/-- No limit of time, and at most 200 bytes of each statement at the level of debugging. -/
def default : Settings := ⟨none, .debug, some 200⟩

/-- Lets a call take no longer than `limit`. -/
def withTimeout (s : Settings) (limit : Duration) : Settings := { s with timeout := some limit }

/-- Logs statements at another level. -/
def withLogLevel (s : Settings) (level : Level) : Settings := { s with logLevel := level }

/-- Logs at most `bytes` bytes of a statement. -/
def withMaxSqlBytes (s : Settings) (bytes : Nat) : Settings := { s with maxSqlBytes := some bytes }

/-- Logs statements in full. -/
def withFullSql (s : Settings) : Settings := { s with maxSqlBytes := none }

end Settings

end BoundSql
