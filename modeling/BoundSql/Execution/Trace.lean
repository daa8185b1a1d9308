import BoundSql.Database.Script
import BoundSql.Execution.Settings
import BoundSql.Statement.Kind
import BoundSql.Text.Clip

/-!
# What can be observed of an execution

The trace of an execution lists, in order, the calls to the database and the log events around
them: one event for each statement before the call, one when a call has failed, and one when a
failure of the database has been given a meaning.
-/

namespace BoundSql

/-- What is done with a statement. -/
inductive Operation
  | get
  | getAll
  | run
  | batch
deriving DecidableEq

/-- The name of an operation. -/
def Operation.name : Operation → String
  | .get => "get"
  | .getAll => "get_all"
  | .run => "run"
  | .batch => "batch"

/-- Where a log event belongs. -/
inductive Channel
  /-- The execution of statements. -/
  | sql
  /-- The account store. -/
  | account
deriving DecidableEq

/-- A log event. -/
inductive Event
  /-- A statement is about to be executed. -/
  | statement (level : Level) (op : Operation) (kind : Statement.Kind) (paramCount : Nat)
      (sql : String)
  /-- A call has failed. -/
  | failed (op : Operation) (error : String)
  /-- A failure of the database has been given a meaning, which has a code. -/
  | explained (error code : String)
deriving DecidableEq

namespace Event

/-- Where the event belongs. -/
def channel : Event → Channel
  | .statement .. => .sql
  | .failed .. => .sql
  | .explained .. => .account

/-- The level of the event. -/
def level : Event → Level
  | .statement level .. => level
  | .failed .. => .warn
  | .explained .. => .debug

/-- What the event says beside its fields. -/
def message? : Event → Option String
  | .statement .. => none
  | .failed .. => some "statement failed"
  | .explained .. => some "translated backend error"

end Event

/-- Something that can be observed of an execution. -/
inductive Entry
  | call (c : Call)
  | log (e : Event)
deriving DecidableEq

namespace Settings

/-- The SQL text as it is logged. -/
def loggedSql (settings : Settings) (sql : String) : String :=
  match settings.maxSqlBytes with
  | some limit => .ofList (Text.abridge limit sql.toList)
  | none => sql

/-- The event that announces a statement. -/
def announce (settings : Settings) (op : Operation) (s : Statement) : Event :=
  .statement settings.logLevel op (.ofSql s.sql) s.params.length (settings.loggedSql s.sql)

end Settings

end BoundSql
