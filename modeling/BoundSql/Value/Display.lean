import BoundSql.Decimal.Layout
import BoundSql.Text.Quoted
import BoundSql.Value

/-!
# Values in messages

How a value is shown to a person: `NULL`, an integer in decimal, a number written out in full
without an exponent, a text in quotes.
-/

namespace BoundSql.Value

/-- Numbers are written out in full whatever their size, whole ones without a point. -/
def displayLayout : Layout where
  tie := .away
  inFull _ := true
  fraction := false

/-- The text of a number, with words for what is not finite. -/
def displayReal (x : Binary64) : List Char :=
  if x.isNaN then ['N', 'a', 'N']
  else if x.isFinite then displayLayout.write x
  else if x.isNegative then ['-', 'i', 'n', 'f']
  else ['i', 'n', 'f']

/-- The value as it is shown in messages. -/
def display : Value → String
  | .null => "NULL"
  | .integer n => .ofList (intText n.toInt)
  | .real x => .ofList (displayReal x)
  | .text s => .ofList (Text.quoted s.toList)

end BoundSql.Value
