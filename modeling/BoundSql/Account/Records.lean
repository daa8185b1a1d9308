import BoundSql.Execution.Operations
import BoundSql.Value.Conversion

/-!
# Users, sessions and keys

The records of an account store and how they are kept in rows.  A user is an identifier and all
other columns as they are; sessions and keys have fixed columns.  `toRow` gives the row that is
inserted for a record, and `fromRow` reads a record off any row that has its columns.
-/

namespace BoundSql.Account

/-- A user: the column `id` and every other column. -/
structure User where
  id : String
  attributes : Row
deriving DecidableEq

/-- A session of a user, with the times until which it is active and can be renewed. -/
structure Session where
  id : String
  userId : String
  activeExpires : Int64
  idleExpires : Int64
deriving DecidableEq

/-- A credential of a user; the primary one cannot be deleted on its own. -/
structure Key where
  id : String
  userId : String
  primaryKey : Bool
  hashedPassword : Option String
  expires : Option Int64
deriving DecidableEq

namespace User

/-- Reads a user off a row. -/
def ofRow (row : Row) : Except Fault User := do
  let id ← row.read "id"
  return ⟨id, row.erase "id"⟩

/-- The row that is inserted for a user: `id` first, then the attributes of other names. -/
def newRow (id : String) (attributes : Row) : Row :=
  (Row.empty.insert "id" (toValue id)).extend (attributes.entries.filter fun e => e.1 ≠ "id")

end User

instance : FromRow User := ⟨User.ofRow⟩

namespace Session

/-- Reads a session off a row. -/
def ofRow (row : Row) : Except Fault Session := do
  let id ← row.read "id"
  let userId ← row.read "user_id"
  let activeExpires ← row.read "active_expires"
  let idleExpires ← row.read "idle_expires"
  return { id, userId, activeExpires, idleExpires }

/-- The row that is kept for a session. -/
def toRow (s : Session) : Row :=
  .ofList [("id", toValue s.id), ("user_id", toValue s.userId),
    ("active_expires", toValue s.activeExpires), ("idle_expires", toValue s.idleExpires)]

end Session

instance : FromRow Session := ⟨Session.ofRow⟩

namespace Key

/-- Reads a key off a row. -/
def ofRow (row : Row) : Except Fault Key := do
  let id ← row.read "id"
  let userId ← row.read "user_id"
  let primaryKey ← row.read "primary_key"
  let hashedPassword ← row.read "hashed_password"
  let expires ← row.read "expires"
  return { id, userId, primaryKey, hashedPassword, expires }

/-- The row that is kept for a key. -/
def toRow (k : Key) : Row :=
  .ofList [("id", toValue k.id), ("user_id", toValue k.userId),
    ("primary_key", toValue k.primaryKey), ("hashed_password", toValue k.hashedPassword),
    ("expires", toValue k.expires)]

end Key

instance : FromRow Key := ⟨Key.ofRow⟩

end BoundSql.Account
