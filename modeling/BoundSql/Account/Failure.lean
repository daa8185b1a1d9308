import BoundSql.Account.Tables
import BoundSql.Fault

/-!
# Failures of an account store

A store answers with a failure of its own where it knows what has gone wrong: an identifier that is
taken, a user who does not exist, an answer it cannot use, a configuration that is no good.  All
other failures are faults of the query, unchanged.
-/

namespace BoundSql.Account

/-- Why a configuration is refused. -/
inductive ConfigFault
  /-- The file cannot be read as text. -/
  | unreadable
  /-- The text is no configuration. -/
  | unparsable
  /-- The name of a table is blank. -/
  | blankName (table : Table)
  /-- Any other reason. -/
  | reported (reason : String)
deriving DecidableEq

/-- The text of the reason. -/
def ConfigFault.message : ConfigFault → String
  | .unreadable => "failed to read config file"
  | .unparsable => "failed to parse config"
  | .blankName table => "tables." ++ table.field ++ " must not be empty"
  | .reported reason => reason

/-- Why a request to an account store fails. -/
inductive Failure
  | duplicateKeyId
  | duplicateSessionId
  | invalidUserId
  /-- The database answered with something that cannot be used. -/
  | unexpectedValue (text : String)
  | config (cause : ConfigFault)
  /-- Any fault of the query. -/
  | query (fault : Fault)
deriving DecidableEq

namespace Failure

/-- The text of the failure. -/
def message : Failure → String
  | .duplicateKeyId => "Duplicate key id"
  | .duplicateSessionId => "Duplicate session id"
  | .invalidUserId => "Invalid user id"
  | .unexpectedValue text => "Unexpected value: " ++ text
  | .config cause => "Config error: " ++ cause.message
  | .query fault => fault.message

/-- The code by which a caller knows a failure that has been given a meaning. -/
def code? : Failure → Option String
  | .duplicateKeyId => some "AUTH_DUPLICATE_KEY_ID"
  | .duplicateSessionId => some "AUTH_DUPLICATE_SESSION_ID"
  | .invalidUserId => some "AUTH_INVALID_USER_ID"
  | _ => none

/-- Whether the failure hands on an error of another layer. -/
def hasSource : Failure → Bool
  | .query fault => fault.hasSource
  | _ => false

end Failure

end BoundSql.Account
