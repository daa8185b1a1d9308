import BoundSql.Account.Failure
import BoundSql.Execution.Outcome
import BoundSql.Text.Search

/-!
# Violated constraints

A database says in its own words which constraint a write has violated.  `Violation.explains`
recognises those words, and `meaning?` takes the first of the violations that a request expects.
Only what the database itself says is looked at; giving it a meaning is logged.
-/

namespace BoundSql.Account

/-- A constraint that a write can violate. -/
inductive Violation
  | duplicateKeyId
  | duplicateSessionId
  | invalidUserId
deriving DecidableEq

namespace Violation

/-- The failure that a violation means. -/
def failure : Violation → Failure
  | .duplicateKeyId => .duplicateKeyId
  | .duplicateSessionId => .duplicateSessionId
  | .invalidUserId => .invalidUserId

/-- The code of a violation. -/
def code : Violation → String
  | .duplicateKeyId => "AUTH_DUPLICATE_KEY_ID"
  | .duplicateSessionId => "AUTH_DUPLICATE_SESSION_ID"
  | .invalidUserId => "AUTH_INVALID_USER_ID"

theorem code?_failure (v : Violation) : v.failure.code? = some v.code := by
  cases v <;> rfl

/-- Whether the words of a database say that a value of `table`'s column `id` is taken. -/
def idTaken (table : String) (text : List Char) : Bool :=
  Text.occursIn "UNIQUE constraint failed".toList text &&
    Text.occursIn (table ++ ".id").toList text

/-- Whether the words of a database mean this violation. -/
def explains (tables : Tables) (text : List Char) : Violation → Bool
  | .duplicateKeyId => idTaken tables.key text
  | .duplicateSessionId => idTaken tables.session text
  | .invalidUserId => Text.occursIn "FOREIGN KEY constraint failed".toList text

/-- The first of the expected violations that a fault means. -/
def meaning? (tables : Tables) (expected : List Violation) (fault : Fault) :
    Option Violation :=
  fault.backendText?.bind fun text => expected.find? (explains tables text.toList)

end Violation

/-- The outcome with a failure of the database replaced by what it means, if it is expected. -/
def explain {α : Type} (tables : Tables) (expected : List Violation)
    (o : Outcome Fault α) : Outcome Failure α :=
  match o.result with
  | .ok a => { o with result := .ok a }
  | .error fault =>
    match Violation.meaning? tables expected fault with
    | some v =>
      { o with
        result := .error v.failure
        trace := o.trace ++ [.log (.explained fault.message v.code)] }
    | none => { o with result := .error (.query fault) }

end BoundSql.Account
