/-!
# Names in SQL

A name is written between grave accents, and an accent inside it is written twice, so it cannot be
closed from inside.  The name `*` stands for itself.
-/

namespace BoundSql.Name

/-- The character that opens and closes a name. -/
def accent : Char := '\x60'

/-- The text between the accents: an accent is written twice. -/
def body : List Char → List Char
  | [] => []
  | c :: s => if c = accent then accent :: accent :: body s else c :: body s

/-- A name as it is written in SQL. -/
def quote (name : String) : String :=
  if name = "*" then name else .ofList (accent :: body name.toList ++ [accent])

end BoundSql.Name
