import BoundSql.Clause
import BoundSql.Statement.Basic
import BoundSql.Statement.Name

/-!
# From clauses to statements

`Clause.compile` writes one clause as SQL text with its own parameters, or says why it cannot.
`Statement.ofClauses` compiles a list clause by clause, in order and without looking at the
neighbours, and joins the results by single spaces.
-/

namespace BoundSql

/-- The text of a condition, with a placeholder for its value. -/
def Condition.sql (c : Condition) : String := c.column ++ " " ++ c.comparator.sql ++ " ?"

/-- The list of columns to select or return. -/
def Clause.targets (kind : Clause.Kind) (columns : List String) : Except ClauseFault String :=
  if columns.isEmpty then .error (.noColumns kind) else .ok (",".intercalate columns)

/-- Checks that there is something to write. -/
def Clause.nonempty (kind : Clause.Kind) (row : Row) : Except ClauseFault Unit :=
  if row.isEmpty then .error (.noColumnValues kind) else .ok ()

/-- One clause as a piece of a statement. -/
def Clause.compile : Clause → Except ClauseFault Statement
  | .select table columns => do
    let targets ← targets .select columns
    return .ofText ("SELECT " ++ targets ++ " FROM " ++ Name.quote table)
  | .insertInto table row => do
    nonempty .insertInto row
    let names := ",".intercalate (row.columns.map Name.quote)
    let marks := ",".intercalate (row.columns.map fun _ => "?")
    return ⟨"INSERT INTO " ++ Name.quote table ++ " (" ++ names ++ ") VALUES (" ++ marks ++ ")",
      row.values⟩
  | .update table row => do
    nonempty .update row
    let settings := ",".intercalate (row.columns.map fun c => Name.quote c ++ " = ?")
    return ⟨"UPDATE " ++ Name.quote table ++ " SET " ++ settings, row.values⟩
  | .deleteFrom table => return .ofText ("DELETE FROM " ++ Name.quote table)
  | .innerJoin table tableColumn column =>
    return .ofText ("INNER JOIN " ++ Name.quote table ++ " ON " ++ tableColumn ++ " = " ++ column)
  | .filter c => return ⟨"WHERE " ++ c.sql, [c.value]⟩
  | .filterAll conditions =>
    if conditions.isEmpty then .error .noConditions
    else
      return ⟨"WHERE " ++ " AND ".intercalate (conditions.map Condition.sql),
        conditions.map Condition.value⟩
  | .returning columns => do
    let targets ← targets .returning columns
    return .ofText ("RETURNING " ++ targets)
  | .unknown => .error .unknownKind

/-- The statement that a list of clauses describes; the first clause at fault decides. -/
def Statement.ofClauses (clauses : List Clause) : Except Fault Statement :=
  (join <$> clauses.mapM Clause.compile).mapError .invalidClause

end BoundSql
