import BoundSql.Row

/-!
# What a query returns

Not every database wraps a single record in a list, so an answer has one of three shapes.  The
shapes differ for nobody who looks at an answer through `toList`, and all other functions here are
functions of that list.
-/

namespace BoundSql

/-- The answer to a query. -/
inductive Rows
  /-- Nothing came back. -/
  | none
  /-- A record that is not in a list. -/
  | one (row : Row)
  /-- A list of records, possibly without any. -/
  | many (rows : List Row)
deriving DecidableEq, Inhabited

namespace Rows

/-- All records, in order. -/
def toList : Rows → List Row
  | .none => []
  | .one r => [r]
  | .many rs => rs

/-- The first record; the others are dropped. -/
def first? : Rows → Option Row
  | .none => Option.none
  | .one r => some r
  | .many rs => rs.head?

/-- The number of records. -/
def size : Rows → Nat
  | .none => 0
  | .one _ => 1
  | .many rs => rs.length

/-- Whether there are no records. -/
def isEmpty (r : Rows) : Bool := r.size == 0

/-- The answer that holds the records of a list. -/
def ofList (rows : List Row) : Rows := .many rows

/-- The answer that holds one record or none. -/
def ofOption (row : Option Row) : Rows := row.elim .none .one

end Rows

end BoundSql
