import BoundSql.Clause
import BoundSql.Value.Json

/-!
# Clause lists as JSON

A clause is written as an object whose member `type` is the tag of its kind, followed by the
fields of that kind.  Reading is more generous.  The members of an object can stand in any order
among others that mean nothing, as long as the tag and each field are there exactly once; a clause
or a condition can also be an array of its fields in order, a clause with its tag in front; and a
tag of no kind makes an unknown clause.
-/

namespace BoundSql

/-! ## Fields -/

namespace Json

/-- The value of the member with one of the given names, unless it is missing or repeated. -/
def only? (names : List String) (members : List (String × Json)) : Option Json :=
  match members.filter fun m => names.contains m.1 with
  | [m] => some m.2
  | _ => none

/-- The values of fields, each with the names it can have. -/
def fields? (names : List (List String)) (members : List (String × Json)) : Option (List Json) :=
  names.mapM fun n => only? n members

/-- The text of a string. -/
def string? : Json → Option String
  | .string s => some s
  | _ => none

/-- The texts of an array of strings. -/
def strings? : Json → Option (List String)
  | .array items => items.mapM string?
  | _ => none

end Json

/-! ## Conditions -/

namespace Comparator

/-- Reads a comparator: its spelling, or an object whose only member has it for a name. -/
def ofJson? : Json → Option Comparator
  | .string s => ofSpelling? s
  | .object [(s, .null)] => ofSpelling? s
  | .object [(s, .object [])] => ofSpelling? s
  | _ => none

end Comparator

namespace Condition

/-- The names of the fields of a condition. -/
def fieldNames : List (List String) := [["column"], ["comparator"], ["value"]]

/-- The members of a condition. -/
def toMembers (c : Condition) : List (String × Json) :=
  [("column", .string c.column), ("comparator", .string c.comparator.spelling),
    ("value", c.value.toJson)]

/-- Reads a condition off its fields. -/
def ofFields? : List Json → Option Condition
  | [column, comparator, value] => do
    return ⟨← column.string?, ← Comparator.ofJson? comparator, ← Value.ofJson? value⟩
  | _ => none

/-- Reads a condition. -/
def ofJson? : Json → Option Condition
  | .object members => Json.fields? fieldNames members >>= ofFields?
  | .array fields => ofFields? fields
  | _ => none

end Condition

/-! ## Clauses -/

namespace Clause

/-- The names of the fields of a kind of clauses. -/
def Kind.fieldNames : Kind → List (List String)
  | .select => [["table"], ["columns"]]
  | .insertInto => [["table"], ["values"]]
  | .update => [["table"], ["values"]]
  | .deleteFrom => [["table"]]
  | .innerJoin => [["targetTable"], ["targetColumn"], ["column"]]
  | .filter => Condition.fieldNames
  | .filterAll => [["conditions", "whereBlocks"]]
  | .returning => [["columns"]]
  | .unknown => []

/-- The members of a clause after its tag. -/
def toMembers : Clause → List (String × Json)
  | .select table columns => [("table", .string table), ("columns", .array (columns.map .string))]
  | .insertInto table row => [("table", .string table), ("values", row.toJson)]
  | .update table row => [("table", .string table), ("values", row.toJson)]
  | .deleteFrom table => [("table", .string table)]
  | .innerJoin table tableColumn column =>
    [("targetTable", .string table), ("targetColumn", .string tableColumn),
      ("column", .string column)]
  | .filter c => c.toMembers
  | .filterAll cs => [("conditions", .array (cs.map fun c => .object c.toMembers))]
  | .returning columns => [("columns", .array (columns.map .string))]
  | .unknown => []

/-- The clause as JSON. -/
def toJson (c : Clause) : Json := .object (("type", .string c.kind.tag) :: c.toMembers)

/-- The list of clauses as JSON. -/
def listToJson (clauses : List Clause) : Json := .array (clauses.map toJson)

/-- Reads a clause off the fields of its kind. -/
def ofFields? : Kind → List Json → Option Clause
  | .select, [table, columns] => return .select (← table.string?) (← columns.strings?)
  | .insertInto, [table, row] => return .insertInto (← table.string?) (← Row.ofJson? row)
  | .update, [table, row] => return .update (← table.string?) (← Row.ofJson? row)
  | .deleteFrom, [table] => return .deleteFrom (← table.string?)
  | .innerJoin, [table, tableColumn, column] =>
    return .innerJoin (← table.string?) (← tableColumn.string?) (← column.string?)
  | .filter, fields => .filter <$> Condition.ofFields? fields
  | .filterAll, [.array conditions] => .filterAll <$> conditions.mapM Condition.ofJson?
  | .returning, [columns] => .returning <$> columns.strings?
  | .unknown, [] => some .unknown
  | _, _ => none

/-- Reads a clause. -/
def ofJson? : Json → Option Clause
  | .object members => do
    let kind := Kind.ofTag (← (← Json.only? ["type"] members).string?)
    let others := members.filter fun m => m.1 ≠ "type"
    ofFields? kind (← Json.fields? kind.fieldNames others)
  | .array (.string tag :: fields) => ofFields? (Kind.ofTag tag) fields
  | _ => none

/-- Reads a list of clauses. -/
def listOfJson? : Json → Option (List Clause)
  | .array items => items.mapM ofJson?
  | _ => none

/-- Reads a list of clauses from JSON text. -/
def listOfText (s : String) : Except Fault (List Clause) :=
  match Json.ofText? s >>= listOfJson? with
  | some clauses => .ok clauses
  | none => .error (.invalidClause .malformedList)

end Clause

end BoundSql
