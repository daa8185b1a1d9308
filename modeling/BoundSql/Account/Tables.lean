import BoundSql.Text.Blank

/-!
# The tables of an account store

Users, sessions and keys live in three tables whose names can be chosen.  A name is usable when it
is not blank; of several blank names the first in the order user, session, key is at fault.
-/

namespace BoundSql.Account

/-- The three tables. -/
inductive Table
  | user
  | session
  | key
deriving DecidableEq

/-- What a table is called in a configuration. -/
def Table.field : Table → String
  | .user => "user"
  | .session => "session"
  | .key => "key"

/-- The names of the three tables. -/
structure Tables where
  user : String
  session : String
  key : String
deriving DecidableEq

namespace Tables

/-- The names that are used when none are chosen. -/
def default : Tables := ⟨"auth_user", "auth_session", "auth_key"⟩

/-- The name of one table. -/
def name (tables : Tables) : Table → String
  | .user => tables.user
  | .session => tables.session
  | .key => tables.key

/-- The first table with a blank name. -/
def firstBlank? (tables : Tables) : Option Table :=
  [Table.user, .session, .key].find? fun t => (Text.trim (tables.name t).toList).isEmpty

end Tables

end BoundSql.Account
