import BoundSql.Value

/-!
# Statements

A `Statement` is SQL text with question marks and the values that are bound to them in order.
-/

namespace BoundSql

/-- SQL text and the values bound to its placeholders. -/
structure Statement where
  sql : String
  params : List Value
deriving DecidableEq, Inhabited

namespace Statement

/-- SQL text to which nothing is bound. -/
def ofText (sql : String) : Statement := ⟨sql, []⟩

/-- The number of question marks in the text. -/
def placeholderCount (s : Statement) : Nat := s.sql.toList.count '?'

/-- The statements one after the other, with a space between them. -/
def join (parts : List Statement) : Statement :=
  ⟨" ".intercalate (parts.map sql), parts.flatMap params⟩

end Statement

end BoundSql
