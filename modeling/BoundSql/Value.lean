import BoundSql.Decimal.Binary64

/-!
# Values

A `Value` is what a placeholder is bound to and what a column of a result holds: null, an integer
of 64 bits, a floating point number or a text.  Two notions of sameness are kept apart: `=` tells
every two bit patterns apart, while `Value.agrees` compares floating point numbers as numbers.
-/

namespace BoundSql

/-- A scalar of the database. -/
inductive Value
  | null
  | integer (n : Int64)
  | real (x : Binary64)
  | text (s : String)
deriving DecidableEq, Inhabited

namespace Value

/-- The storage class of a value. -/
inductive Kind
  | null
  | integer
  | real
  | text
deriving DecidableEq

/-- The name of a storage class. -/
def Kind.name : Kind → String
  | .null => "null"
  | .integer => "integer"
  | .real => "real"
  | .text => "text"

/-- The storage class of the value. -/
def kind : Value → Kind
  | .null => .null
  | .integer _ => .integer
  | .real _ => .real
  | .text _ => .text

/-- Whether the value is null. -/
def isNull : Value → Bool
  | .null => true
  | _ => false

/-- The integer, of an integer value. -/
def integer? : Value → Option Int64
  | .integer n => some n
  | _ => none

/-- The number, of a floating point value or an integer value, which is rounded. -/
def real? : Value → Option Binary64
  | .real x => some x
  | .integer n => some (.ofInt n.toInt)
  | _ => none

/-- The text, of a text value. -/
def text? : Value → Option String
  | .text s => some s
  | _ => none

/-- Equality with floating point numbers compared as numbers; an integer agrees with no real. -/
def agrees : Value → Value → Bool
  | .null, .null => true
  | .integer m, .integer n => m == n
  | .real x, .real y => x.agrees y
  | .text s, .text t => s == t
  | _, _ => false

end Value

end BoundSql
