import BoundSql.Execution.Outcome
import BoundSql.Row.Column
import BoundSql.Statement.Compile

/-!
# Executing clause lists

Every operation compiles its clauses, announces the statement in the log, makes one call and reads
the answer; a list of clauses that is no statement does not reach the database.  `FromRow` is the
class of types that can be read off a record.  Nothing is kept between operations but the script.
-/

namespace BoundSql

/-- Types that can be read off a record. -/
class FromRow (α : Type) where
  fromRow : Row → Except Fault α

export FromRow (fromRow)

instance : FromRow Row := ⟨.ok⟩

namespace Settings

variable {α : Type}

/-- Announces statements, makes one call for them and reads its response with `content`. -/
def perform (settings : Settings) (op : Operation) (statements : List Statement) (call : Call)
    (content : Response → α) (script : Script) : Outcome Fault α :=
  let result := script.next.result settings.timeout content
  let failure : List Entry :=
    match result with
    | .ok _ => []
    | .error fault => [.log (.failed op fault.message)]
  { result
    trace := statements.map (fun s => .log (settings.announce op s)) ++ .call call :: failure
    rest := script.rest }

/-- Compiles clauses and performs the operation on the statement, if there is one. -/
def performClauses (settings : Settings) (op : Operation) (clauses : List Clause)
    (call : Statement → Call) (content : Response → α) (script : Script) : Outcome Fault α :=
  match Statement.ofClauses clauses with
  | .error fault => .silent (.error fault) script
  | .ok s => settings.perform op [s] (call s) content script

/-- The first row of a query read by `read`, if there is a row. -/
def getWith (settings : Settings) (read : Row → Except Fault α) (clauses : List Clause)
    (script : Script) : Outcome Fault (Option α) :=
  (settings.performClauses .get clauses .get Response.rows script).andThen fun rows =>
    match rows.first? with
    | some row => some <$> read row
    | none => .ok none

/-- All rows of a query read by `read`; the first row that cannot be read decides. -/
def getAllWith (settings : Settings) (read : Row → Except Fault α) (clauses : List Clause)
    (script : Script) : Outcome Fault (List α) :=
  (settings.performClauses .getAll clauses .get Response.rows script).andThen fun rows =>
    rows.toList.mapM read

/-- The first row of a query, if there is one. -/
def get [FromRow α] (settings : Settings) (clauses : List Clause) (script : Script) :
    Outcome Fault (Option α) :=
  settings.getWith fromRow clauses script

/-- All rows of a query. -/
def getAll [FromRow α] (settings : Settings) (clauses : List Clause) (script : Script) :
    Outcome Fault (List α) :=
  settings.getAllWith fromRow clauses script

/-- Executes a statement for its effects. -/
def run (settings : Settings) (clauses : List Clause) (script : Script) : Outcome Fault Unit :=
  settings.performClauses .run clauses .run (fun _ => ()) script

/-- Executes statements all together, with the rows of each. -/
def batch (settings : Settings) (statements : List Statement) (script : Script) :
    Outcome Fault (List (List Row)) :=
  settings.perform .batch statements (.batch statements) Response.batch script

end Settings

end BoundSql
