import BoundSql.Fault
import BoundSql.Text.Blank

/-!
# Comparators

A condition compares a column with a bound value.  The comparator is written into the SQL text, so
it is one of a closed set.  `Comparator.sql` is its spelling in SQL and `Comparator.spelling` that in
JSON, of which `Comparator.ofSpelling?` accepts no variants; `Comparator.parse` accepts the spellings
that it knows in any case of letters and between blanks.
-/

namespace BoundSql

/-- How a condition compares a column with a value. -/
inductive Comparator
  | equal
  | notEqual
  /-- The second spelling of inequality. -/
  | unequal
  | less
  | lessOrEqual
  | greater
  | greaterOrEqual
  | like
  | notLike
  | same
  | notSame
deriving DecidableEq

namespace Comparator

/-- The spelling in SQL. -/
def sql : Comparator → String
  | .equal => "="
  | .notEqual => "!="
  | .unequal => "<>"
  | .less => "<"
  | .lessOrEqual => "<="
  | .greater => ">"
  | .greaterOrEqual => ">="
  | .like => "LIKE"
  | .notLike => "NOT LIKE"
  | .same => "IS"
  | .notSame => "IS NOT"

/-- The spelling in JSON. -/
def spelling : Comparator → String
  | .equal => "="
  | .notEqual => "!="
  | .unequal => "<>"
  | .less => "<"
  | .lessOrEqual => "<="
  | .greater => ">"
  | .greaterOrEqual => ">="
  | .like => "LIKE"
  | .notLike => "NOT LIKE"
  | .same => "IS"
  | .notSame => "IS NOT"

/-- All comparators. -/
def all : List Comparator :=
  [.equal, .notEqual, .unequal, .less, .lessOrEqual, .greater, .greaterOrEqual, .like, .notLike,
   .same, .notSame]

theorem mem_all (c : Comparator) : c ∈ all := by
  cases c <;> decide

/-- The comparator with exactly this spelling in JSON. -/
def ofSpelling? (spelling : String) : Option Comparator := all.find? fun c => c.spelling == spelling

/-- A spelling without blanks around it and with ASCII letters in upper case. -/
def canonical (s : String) : String := .ofList ((Text.trim s.toList).map Char.toUpper)

/-- Reads a comparator from text written by a person. -/
def parse (s : String) : Except Fault Comparator :=
  match canonical s with
  | "=" => .ok .equal
  | "!=" => .ok .notEqual
  | "<>" => .ok .unequal
  | "<" => .ok .less
  | "<=" => .ok .lessOrEqual
  | ">" => .ok .greater
  | ">=" => .ok .greaterOrEqual
  | "LIKE" => .ok .like
  | "NOT LIKE" => .ok .notLike
  | "IS" => .ok .same
  | "IS NOT" => .ok .notSame
  | other => .error (.invalidClause (.unsupportedComparator other))

end Comparator

end BoundSql
