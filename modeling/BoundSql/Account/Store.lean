import BoundSql.Account.Records
import BoundSql.Account.Violation

/-!
# The account store

Users, sessions and keys are kept in three tables of a database, and every request is a list of
clauses that is executed.  A user who is created with a key is inserted together with it in one
batch.  Requests that insert recognise the constraints that they can violate; deleting a key that
is not primary is left to the condition of the statement.
-/

namespace BoundSql.Account

/-- A store: the settings of its executions and the names of its tables. -/
structure Store where
  settings : Settings
  tables : Tables

namespace Store

/-! ## Clauses -/

/-- Every column of the rows of a table whose `column` is the given text. -/
def selectWhere (table column value : String) : List Clause :=
  [.select table ["*"], .filter (.equal column (toValue value))]

/-- Deletes the rows of a table whose `column` is the given text. -/
def deleteWhere (table column value : String) : List Clause :=
  [.deleteFrom table, .filter (.equal column (toValue value))]

/-- Writes into the rows of a table whose `id` is the given text. -/
def updateWhereId (table id : String) (row : Row) : List Clause :=
  [.update table row, .filter (.equal "id" (toValue id))]

/-- Inserts a user and asks for the row that is stored. -/
def insertUser (tables : Tables) (id : String) (attributes : Row) : List Clause :=
  [.insertInto tables.user (User.newRow id attributes), .returning ["*"]]

/-! ## Users -/

variable (store : Store)

/-- The user with an identifier. -/
def getUser (id : String) (script : Script) : Outcome Failure (Option User) :=
  (store.settings.get (selectWhere store.tables.user "id" id) script).mapError .query

/-- The failure of an insertion that gave no row back. -/
def noUserRow : Failure := .unexpectedValue "insert returned no user row"

/-- Creates a user without a key, and gives back what is stored. -/
def addUser (id : String) (attributes : Row) (script : Script) : Outcome Failure User :=
  let inserted : Outcome Fault (Option User) :=
    store.settings.get (insertUser store.tables id attributes) script
  (inserted.mapError Failure.query).andThen fun user =>
    match user with
    | some u => .ok u
    | none => .error noUserRow

/-- Creates a user together with a key, and gives back the user that is stored. -/
def addUserWithKey (id : String) (attributes : Row) (key : Key) (script : Script) :
    Outcome Failure User :=
  let statements := do
    let user ← Statement.ofClauses (insertUser store.tables id attributes)
    let key ← Statement.ofClauses [.insertInto store.tables.key key.toRow]
    return [user, key]
  match statements with
  | .error fault => .silent (.error (.query fault)) script
  | .ok statements =>
    (explain store.tables [.duplicateKeyId] (store.settings.batch statements script)).andThen
      fun results =>
        match results.head?.bind List.head? with
        | some row => (User.ofRow row).mapError .query
        | none => .error noUserRow

/-- Creates a user, and a first key for it when one is given. -/
def setUser (id : String) (attributes : Row) (key : Option Key) (script : Script) :
    Outcome Failure User :=
  match key with
  | none => store.addUser id attributes script
  | some k => store.addUserWithKey id attributes k script

/-- Deletes the user with an identifier. -/
def deleteUser (id : String) (script : Script) : Outcome Failure Unit :=
  (store.settings.run (deleteWhere store.tables.user "id" id) script).mapError .query

/-- Writes columns of a user; without columns nothing is executed. -/
def updateUserAttributes (id : String) (attributes : Row) (script : Script) :
    Outcome Failure Unit :=
  if attributes.isEmpty then .silent (.ok ()) script
  else (store.settings.run (updateWhereId store.tables.user id attributes) script).mapError .query

/-! ## Sessions -/

/-- The names under which the columns of a session stand beside those of its user. -/
def sessionAliases : List String :=
  ["_session_id", "_session_user_id", "_session_active_expires", "_session_idle_expires"]

/-- A session joined with its user. -/
def joinSession (tables : Tables) (id : String) : List Clause :=
  let session := tables.session
  let user := tables.user
  [.select session
      [user ++ ".*", session ++ ".id as _session_id",
        session ++ ".active_expires as _session_active_expires",
        session ++ ".idle_expires as _session_idle_expires",
        session ++ ".user_id as _session_user_id"],
    .innerJoin user (user ++ ".id") (session ++ ".user_id"),
    .filter (.equal (session ++ ".id") (toValue id))]

/-- Reads a session and its user off a joined row. -/
def readJoined (row : Row) : Except Fault (Session × User) := do
  let id ← row.read "_session_id"
  let userId ← row.read "_session_user_id"
  let activeExpires ← row.read "_session_active_expires"
  let idleExpires ← row.read "_session_idle_expires"
  let user ← User.ofRow (sessionAliases.foldl Row.erase row)
  return ({ id, userId, activeExpires, idleExpires }, user)

/-- The session with an identifier, and its user. -/
def getSessionAndUser (id : String) (script : Script) :
    Outcome Failure (Option (Session × User)) :=
  (store.settings.getWith readJoined (joinSession store.tables id) script).mapError .query

/-- The session with an identifier. -/
def getSession (id : String) (script : Script) : Outcome Failure (Option Session) :=
  (store.settings.get (selectWhere store.tables.session "id" id) script).mapError .query

/-- The sessions of a user. -/
def getSessionsOfUser (userId : String) (script : Script) : Outcome Failure (List Session) :=
  (store.settings.getAll (selectWhere store.tables.session "user_id" userId) script).mapError
    .query

/-- Stores a session. -/
def setSession (session : Session) (script : Script) : Outcome Failure Unit :=
  explain store.tables [.invalidUserId, .duplicateSessionId]
    (store.settings.run [.insertInto store.tables.session session.toRow] script)

/-- Deletes the session with an identifier. -/
def deleteSession (id : String) (script : Script) : Outcome Failure Unit :=
  (store.settings.run (deleteWhere store.tables.session "id" id) script).mapError .query

/-- Deletes the sessions of a user. -/
def deleteSessionsOfUser (userId : String) (script : Script) : Outcome Failure Unit :=
  (store.settings.run (deleteWhere store.tables.session "user_id" userId) script).mapError .query

/-! ## Keys -/

/-- Stores a key. -/
def setKey (key : Key) (script : Script) : Outcome Failure Unit :=
  explain store.tables [.invalidUserId, .duplicateKeyId]
    (store.settings.run [.insertInto store.tables.key key.toRow] script)

/-- The key with an identifier. -/
def getKey (id : String) (script : Script) : Outcome Failure (Option Key) :=
  (store.settings.get (selectWhere store.tables.key "id" id) script).mapError .query

/-- The keys of a user. -/
def getKeysOfUser (userId : String) (script : Script) : Outcome Failure (List Key) :=
  (store.settings.getAll (selectWhere store.tables.key "user_id" userId) script).mapError .query

/-- Changes the password of a key, or takes it away. -/
def updateKeyPassword (id : String) (hashedPassword : Option String) (script : Script) :
    Outcome Failure Unit :=
  let row := Row.empty.insert "hashed_password" (toValue hashedPassword)
  (store.settings.run (updateWhereId store.tables.key id row) script).mapError .query

/-- Deletes the keys of a user. -/
def deleteKeysOfUser (userId : String) (script : Script) : Outcome Failure Unit :=
  (store.settings.run (deleteWhere store.tables.key "user_id" userId) script).mapError .query

/-- The conditions on a key that is deleted: its identifier, and that it is not primary. -/
def nonPrimaryConditions (id : String) : List Condition :=
  [.equal "id" (toValue id), .equal "primary_key" (toValue false)]

/-- Deletes the key with an identifier unless it is the primary key of its user. -/
def deleteNonPrimaryKey (id : String) (script : Script) : Outcome Failure Unit :=
  let clauses := [.deleteFrom store.tables.key, .filterAll (nonPrimaryConditions id)]
  (store.settings.run clauses script).mapError .query

end Store

end BoundSql.Account
