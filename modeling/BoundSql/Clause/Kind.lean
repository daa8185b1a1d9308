/-!
# Kinds of clauses

A clause list written as data names the kind of each clause by a tag.  `Kind.ofTag` inverts
`Kind.tag` and takes every other tag for that of an unknown kind.
-/

namespace BoundSql.Clause

/-- The kinds of clauses. -/
inductive Kind
  | select
  | insertInto
  | update
  | deleteFrom
  | innerJoin
  | filter
  | filterAll
  | returning
  | unknown
deriving DecidableEq

namespace Kind

/-- The tag of a kind. -/
def tag : Kind → String
  | .select => "SELECT"
  | .insertInto => "INSERT_INTO"
  | .update => "UPDATE"
  | .deleteFrom => "DELETE_FROM"
  | .innerJoin => "INNER_JOIN"
  | .filter => "WHERE"
  | .filterAll => "AND"
  | .returning => "RETURNING"
  | .unknown => "UNKNOWN"

/-- All kinds. -/
def all : List Kind :=
  [.select, .insertInto, .update, .deleteFrom, .innerJoin, .filter, .filterAll, .returning,
   .unknown]

/-- The kind with a given tag, and the unknown kind for a tag that no kind has. -/
def ofTag (tag : String) : Kind := (all.find? fun k => k.tag == tag).getD .unknown

theorem ofTag_tag (k : Kind) : ofTag k.tag = k := by
  cases k <;> decide

end Kind

end BoundSql.Clause
