import BoundSql.Account.Store

/-!
# Requests to an account store

A `Request` is one function of the store with its arguments, so that a whole run is a list of
requests.
-/

namespace BoundSql.Account

/-- A request with its arguments. -/
inductive Request
  | getUser (id : String)
  | setUser (id : String) (attributes : Row) (key : Option Key)
  | deleteUser (id : String)
  | updateUserAttributes (id : String) (attributes : Row)
  | getSessionAndUser (id : String)
  | getSession (id : String)
  | getSessionsOfUser (userId : String)
  | setSession (session : Session)
  | deleteSession (id : String)
  | deleteSessionsOfUser (userId : String)
  | setKey (key : Key)
  | getKey (id : String)
  | getKeysOfUser (userId : String)
  | updateKeyPassword (id : String) (hashedPassword : Option String)
  | deleteKeysOfUser (userId : String)
  | deleteNonPrimaryKey (id : String)
deriving DecidableEq

/-- What a request answers. -/
inductive Answer
  | done
  | user (user : Option User)
  | stored (user : User)
  | session (session : Option Session)
  | sessions (sessions : List Session)
  | sessionAndUser (pair : Option (Session × User))
  | key (key : Option Key)
  | keys (keys : List Key)
deriving DecidableEq

namespace Request

/-- An outcome whose value is taken as an answer. -/
def answer {α : Type} (f : α → Answer) (o : Outcome Failure α) : Outcome Failure Answer :=
  o.withResult (f <$> ·)

/-- Executes a request. -/
def execute (store : Store) (request : Request) (script : Script) : Outcome Failure Answer :=
  match request with
  | .getUser id => answer .user (store.getUser id script)
  | .setUser id attributes key => answer .stored (store.setUser id attributes key script)
  | .deleteUser id => answer (fun _ => .done) (store.deleteUser id script)
  | .updateUserAttributes id attributes =>
    answer (fun _ => .done) (store.updateUserAttributes id attributes script)
  | .getSessionAndUser id => answer .sessionAndUser (store.getSessionAndUser id script)
  | .getSession id => answer .session (store.getSession id script)
  | .getSessionsOfUser userId => answer .sessions (store.getSessionsOfUser userId script)
  | .setSession session => answer (fun _ => .done) (store.setSession session script)
  | .deleteSession id => answer (fun _ => .done) (store.deleteSession id script)
  | .deleteSessionsOfUser userId =>
    answer (fun _ => .done) (store.deleteSessionsOfUser userId script)
  | .setKey key => answer (fun _ => .done) (store.setKey key script)
  | .getKey id => answer .key (store.getKey id script)
  | .getKeysOfUser userId => answer .keys (store.getKeysOfUser userId script)
  | .updateKeyPassword id password =>
    answer (fun _ => .done) (store.updateKeyPassword id password script)
  | .deleteKeysOfUser userId => answer (fun _ => .done) (store.deleteKeysOfUser userId script)
  | .deleteNonPrimaryKey id => answer (fun _ => .done) (store.deleteNonPrimaryKey id script)

/-- Executes requests one after the other. -/
def executeAll (store : Store) (requests : List Request) (script : Script) :
    List (Report Failure Answer) :=
  BoundSql.executeAll (execute store) requests script

end Request

end BoundSql.Account
