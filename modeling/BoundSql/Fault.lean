import BoundSql.Clause.Kind
import BoundSql.Duration
import BoundSql.Value.Display

/-!
# Faults

What can go wrong between a list of clauses and the data that it asks for: a clause that is no
SQL, a failure of the database, a column of the wrong type, a call that took too long.  The first
and the third carry their cause; a database may also report them in its own words.  `message` is
the text of a fault.
-/

namespace BoundSql

/-- Why a list of clauses is refused. -/
inductive ClauseFault
  /-- A list of target columns is empty. -/
  | noColumns (kind : Clause.Kind)
  /-- There is nothing to write. -/
  | noColumnValues (kind : Clause.Kind)
  /-- A conjunction has no conditions. -/
  | noConditions
  /-- The kind of the clause is not known. -/
  | unknownKind
  /-- No comparator has this spelling. -/
  | unsupportedComparator (spelling : String)
  /-- A text does not hold a list of clauses. -/
  | malformedList
  /-- The database gave this reason. -/
  | reported (reason : String)
deriving DecidableEq

/-- The text of the reason. -/
def ClauseFault.message : ClauseFault → String
  | .noColumns k => k.tag ++ " requires at least one column"
  | .noColumnValues k => k.tag ++ " requires at least one column value"
  | .noConditions => "AND requires at least one condition"
  | .unknownKind => "unrecognized fragment kind"
  | .unsupportedComparator s => "unsupported comparator '" ++ s ++ "'"
  | .malformedList => "malformed fragment list"
  | .reported reason => reason

/-- Why a column cannot be read at the type that is asked for. -/
inductive ColumnFault
  /-- The value has another storage class. -/
  | expected (wanted found : Value.Kind)
  /-- The integer does not fit into 32 bits. -/
  | outOfRange (n : Int64)
  /-- The row has no such column. -/
  | notFound
  /-- The database gave this reason. -/
  | reported (reason : String)
deriving DecidableEq

/-- The text of the reason. -/
def ColumnFault.message : ColumnFault → String
  | .expected wanted found => "expected " ++ wanted.name ++ ", got " ++ found.name
  | .outOfRange n => (Value.integer n).display ++ " is out of range for i32"
  | .notFound => "column not found"
  | .reported reason => reason

/-- Why a statement has no result. -/
inductive Fault
  /-- A list of clauses that is no statement. -/
  | invalidClause (cause : ClauseFault)
  /-- A failure of the database in its own words; `wrapped` when it hands on the error it met. -/
  | backend (text : String) (wrapped : Bool)
  /-- A column that cannot be read. -/
  | column (name : String) (cause : ColumnFault)
  /-- No answer within the limit. -/
  | timeout (limit : Duration)
deriving DecidableEq

namespace Fault

/-- The text of the fault. -/
def message : Fault → String
  | .invalidClause cause => "Invalid fragment: " ++ cause.message
  | .backend text _ => "Backend error: " ++ text
  | .column name cause => "Decode error on column '" ++ name ++ "': " ++ cause.message
  | .timeout limit => "Query timeout after " ++ limit.display

/-- The database's own words, when it is the database that failed. -/
def backendText? : Fault → Option String
  | .backend text _ => some text
  | _ => none

/-- Whether the fault hands on an error of another layer. -/
def hasSource : Fault → Bool
  | .backend _ wrapped => wrapped
  | _ => false

/-- Whether a list of clauses was refused. -/
def isInvalidClause : Fault → Bool
  | .invalidClause _ => true
  | _ => false

/-- Whether the database failed. -/
def isBackend : Fault → Bool
  | .backend .. => true
  | _ => false

/-- Whether the limit was exceeded. -/
def isTimeout : Fault → Bool
  | .timeout _ => true
  | _ => false

end Fault

end BoundSql
