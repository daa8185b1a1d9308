import BoundSql.Text.Blank

/-!
# Kinds of statements

What a statement does is told from the first word of its text, in whatever case of ASCII letters.
-/

namespace BoundSql.Statement

/-- What a statement does. -/
inductive Kind
  | select
  | insert
  | update
  | delete
  | other
deriving DecidableEq

namespace Kind

/-- The name of a kind. -/
def name : Kind → String
  | .select => "Select"
  | .insert => "Insert"
  | .update => "Update"
  | .delete => "Delete"
  | .other => "Other"

/-- The kind that a word in upper case announces. -/
def ofKeyword (word : String) : Kind :=
  if word = "SELECT" then .select
  else if word = "INSERT" then .insert
  else if word = "UPDATE" then .update
  else if word = "DELETE" then .delete
  else .other

/-- The kind of a statement with the given text. -/
def ofSql (sql : String) : Kind :=
  ofKeyword (.ofList ((Text.firstWord sql.toList).map Char.toUpper))

end Kind

end BoundSql.Statement
