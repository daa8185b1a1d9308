import BoundSql.Database.Rows
import BoundSql.Fault
import BoundSql.Statement.Basic

/-!
# A database that follows a script

A `Call` is what a database is asked to do.  It answers from a script: every call, one for a whole
batch included, takes the next response, and a script that has run out answers with nothing.  A
response says how long the call takes and whether it fails; how much of it the caller sees is
decided by `Response.result`, since a call that exceeds the caller's limit has neither an answer
nor a failure of its own.
-/

namespace BoundSql

/-- A request to a database. -/
inductive Call
  /-- Execute a statement and return its rows. -/
  | get (statement : Statement)
  /-- Execute a statement for its effects. -/
  | run (statement : Statement)
  /-- Execute statements all together or not at all. -/
  | batch (statements : List Statement)
deriving DecidableEq

/-- How a database responds to one call. -/
structure Response where
  /-- The time that the call takes. -/
  delay : Duration
  /-- The fault with which the call fails, if it does. -/
  failure : Option Fault
  /-- The answer of a query. -/
  rows : Rows
  /-- The rows of each statement of a batch. -/
  batch : List (List Row)
deriving DecidableEq

/-- The responses that are still to come. -/
abbrev Script := List Response

namespace Response

/-- The response that answers at once and with nothing. -/
def nothing : Response := ⟨⟨0⟩, none, .none, []⟩

/-- What the caller sees of a response whose content is read by `content`. -/
def result {α : Type} (limit : Option Duration) (content : Response → α) (r : Response) :
    Except Fault α :=
  let own : Except Fault α :=
    match r.failure with
    | some fault => .error fault
    | none => .ok (content r)
  match limit with
  | some d => if d < r.delay then .error (.timeout d) else own
  | none => own

end Response

namespace Script

/-- The next response. -/
def next (s : Script) : Response := s.headD .nothing

/-- What is left after one call. -/
def rest (s : Script) : Script := s.drop 1

end Script

end BoundSql
