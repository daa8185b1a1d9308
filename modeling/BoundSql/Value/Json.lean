import BoundSql.Json.Tree
import BoundSql.Row

/-!
# Values and rows as JSON

A value is a JSON null, number or string, and a row is a JSON object; truth values, arrays and
objects are no values.  A column that an object repeats keeps its first place and its last value.
-/

namespace BoundSql

/-- The value as JSON. -/
def Value.toJson : Value → Json
  | .null => .null
  | .integer n => .number (.integer n)
  | .real x => .number (.real x)
  | .text s => .string s

/-- The value that a document is. -/
def Value.ofJson? : Json → Option Value
  | .null => some .null
  | .number (.integer n) => some (.integer n)
  | .number (.real x) => some (.real x)
  | .string s => some (.text s)
  | _ => none

/-- The row as a JSON object. -/
def Row.toJson (r : Row) : Json := .object (r.entries.map fun e => (e.1, e.2.toJson))

/-- The row that a document is. -/
def Row.ofJson? : Json → Option Row
  | .object members =>
    .ofList <$> members.mapM fun m => (Value.ofJson? m.2).map fun v => (m.1, v)
  | _ => none

end BoundSql
