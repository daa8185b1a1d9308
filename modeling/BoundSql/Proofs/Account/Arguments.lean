import BoundSql.Proofs.Account.Plan
import BoundSql.Proofs.Row
import BoundSql.Proofs.Statement.Shape

/-!
# What the arguments of a request reach

The arguments of a request are identifiers, records and the columns of a user.  Two requests of one
function have the same shape (`Request.SameShape`) when they write the same columns and both or
neither of them bring a key.  Then the clauses of their statements have the same shape, so what the
requests ask of the database differs at most in what is bound (`Request.calls_of_sameShape`): no
identifier, password or attribute reaches the text of a statement.
-/

namespace BoundSql

/-- The statement with nothing bound. -/
def Statement.unbound (s : Statement) : Statement := .ofText s.sql

/-- The call with nothing bound in its statements. -/
def Call.unbound : Call → Call
  | .get s => .get s.unbound
  | .run s => .run s.unbound
  | .batch ss => .batch (ss.map Statement.unbound)

theorem Statement.unbound_written_of_sameShape {cs ds : List Clause}
    (h : List.Forall₂ Clause.SameShape cs ds) : (written cs).unbound = (written ds).unbound := by
  unfold written unbound
  rw [Clause.listText_eq_of_sameShape h]

namespace Account

/-! ## Columns of records -/

theorem columns_toRow_session (session : Session) :
    session.toRow.columns = ["id", "user_id", "active_expires", "idle_expires"] := rfl

theorem columns_toRow_key (key : Key) :
    key.toRow.columns = ["id", "user_id", "primary_key", "hashed_password", "expires"] := rfl

namespace User

theorem entries_newRow (id : String) (attributes : Row) :
    (newRow id attributes).entries =
      ("id", toValue id) :: attributes.entries.filter fun e => e.1 ≠ "id" := by
  have distinct : ((("id", toValue id) :: attributes.entries.filter fun e => e.1 ≠ "id").map
      Prod.fst).Nodup := by
    have others : ((attributes.entries.filter fun e => e.1 ≠ "id").map Prod.fst).Nodup :=
      (attributes.erase "id").nodup
    rw [List.map_cons, List.nodup_cons]
    refine ⟨?_, others⟩
    simp
  exact Row.entries_extend distinct

theorem columns_newRow (id : String) (attributes : Row) :
    (newRow id attributes).columns = "id" :: attributes.columns.filter (· ≠ "id") := by
  rw [Row.columns, entries_newRow, List.map_cons, Row.columns, List.filter_map]
  rfl

end User

/-! ## Requests of the same shape -/

namespace Request

/-- Two requests of one function that write the same columns, both or neither with a key. -/
inductive SameShape : Request → Request → Prop
  | getUser (id id' : String) : SameShape (.getUser id) (.getUser id')
  | addUser (id id' : String) {attributes attributes' : Row}
    (columns : attributes.columns = attributes'.columns) :
    SameShape (.setUser id attributes none) (.setUser id' attributes' none)
  | addUserWithKey (id id' : String) {attributes attributes' : Row}
    (columns : attributes.columns = attributes'.columns) (key key' : Key) :
    SameShape (.setUser id attributes (some key)) (.setUser id' attributes' (some key'))
  | deleteUser (id id' : String) : SameShape (.deleteUser id) (.deleteUser id')
  | updateUserAttributes (id id' : String) {attributes attributes' : Row}
    (columns : attributes.columns = attributes'.columns) :
    SameShape (.updateUserAttributes id attributes) (.updateUserAttributes id' attributes')
  | getSessionAndUser (id id' : String) :
    SameShape (.getSessionAndUser id) (.getSessionAndUser id')
  | getSession (id id' : String) : SameShape (.getSession id) (.getSession id')
  | getSessionsOfUser (userId userId' : String) :
    SameShape (.getSessionsOfUser userId) (.getSessionsOfUser userId')
  | setSession (session session' : Session) :
    SameShape (.setSession session) (.setSession session')
  | deleteSession (id id' : String) : SameShape (.deleteSession id) (.deleteSession id')
  | deleteSessionsOfUser (userId userId' : String) :
    SameShape (.deleteSessionsOfUser userId) (.deleteSessionsOfUser userId')
  | setKey (key key' : Key) : SameShape (.setKey key) (.setKey key')
  | getKey (id id' : String) : SameShape (.getKey id) (.getKey id')
  | getKeysOfUser (userId userId' : String) :
    SameShape (.getKeysOfUser userId) (.getKeysOfUser userId')
  | updateKeyPassword (id id' : String) (password password' : Option String) :
    SameShape (.updateKeyPassword id password) (.updateKeyPassword id' password')
  | deleteKeysOfUser (userId userId' : String) :
    SameShape (.deleteKeysOfUser userId) (.deleteKeysOfUser userId')
  | deleteNonPrimaryKey (id id' : String) :
    SameShape (.deleteNonPrimaryKey id) (.deleteNonPrimaryKey id')

end Request

/-! ## Clauses of the same shape -/

namespace Store

open Clause (SameShape)

/-- A condition that compares a fixed column with an argument. -/
theorem sameShape_filter (column : String) (v w : Value) :
    SameShape (.filter (.equal column v)) (.filter (.equal column w)) :=
  .filter ⟨rfl, rfl⟩

theorem sameShape_selectWhere (table column v w : String) :
    List.Forall₂ SameShape (selectWhere table column v) (selectWhere table column w) :=
  .cons (.select _ _) (.cons (sameShape_filter _ _ _) .nil)

theorem sameShape_deleteWhere (table column v w : String) :
    List.Forall₂ SameShape (deleteWhere table column v) (deleteWhere table column w) :=
  .cons (.deleteFrom _) (.cons (sameShape_filter _ _ _) .nil)

theorem sameShape_updateWhereId (table id id' : String) {r s : Row} (h : r.columns = s.columns) :
    List.Forall₂ SameShape (updateWhereId table id r) (updateWhereId table id' s) :=
  .cons (.update _ h) (.cons (sameShape_filter _ _ _) .nil)

theorem sameShape_insertInto (table : String) {r s : Row} (h : r.columns = s.columns) :
    List.Forall₂ SameShape [.insertInto table r] [.insertInto table s] :=
  .cons (.insertInto _ h) .nil

theorem sameShape_insertSession (table : String) (session session' : Session) :
    List.Forall₂ SameShape [.insertInto table session.toRow] [.insertInto table session'.toRow] :=
  sameShape_insertInto table
    ((columns_toRow_session session).trans (columns_toRow_session session').symm)

theorem sameShape_insertKey (table : String) (key key' : Key) :
    List.Forall₂ SameShape [.insertInto table key.toRow] [.insertInto table key'.toRow] :=
  sameShape_insertInto table ((columns_toRow_key key).trans (columns_toRow_key key').symm)

theorem sameShape_insertUser (tables : Tables) (id id' : String) {attributes attributes' : Row}
    (h : attributes.columns = attributes'.columns) :
    List.Forall₂ SameShape (insertUser tables id attributes) (insertUser tables id' attributes') := by
  refine .cons (.insertInto _ ?_) (.cons (.returning _) .nil)
  rw [User.columns_newRow, User.columns_newRow, h]

theorem sameShape_joinSession (tables : Tables) (id id' : String) :
    List.Forall₂ SameShape (joinSession tables id) (joinSession tables id') :=
  .cons (.select _ _) (.cons (.innerJoin _ _ _) (.cons (sameShape_filter _ _ _) .nil))

theorem sameShape_deleteNonPrimary (table id id' : String) :
    List.Forall₂ SameShape [.deleteFrom table, .filterAll (nonPrimaryConditions id)]
      [.deleteFrom table, .filterAll (nonPrimaryConditions id')] :=
  .cons (.deleteFrom _) (.cons (.filterAll (.cons ⟨rfl, rfl⟩ (.cons ⟨rfl, rfl⟩ .nil))) .nil)

end Store

namespace Request

open Store

/-- Requests of the same shape plan the same call up to what is bound, or none. -/
theorem SameShape.plan?_eq (tables : Tables) {request request' : Request}
    (h : request.SameShape request') :
    (request.plan? tables).map (fun plan => plan.call.unbound) =
      (request'.plan? tables).map fun plan => plan.call.unbound := by
  have gets {cs ds : List Clause} (same : List.Forall₂ Clause.SameShape cs ds) :
      some (Call.get (.written cs)).unbound = some (Call.get (.written ds)).unbound :=
    congrArg (fun s => some (Call.get s)) (Statement.unbound_written_of_sameShape same)
  have runs {cs ds : List Clause} (same : List.Forall₂ Clause.SameShape cs ds) :
      some (Call.run (.written cs)).unbound = some (Call.run (.written ds)).unbound :=
    congrArg (fun s => some (Call.run s)) (Statement.unbound_written_of_sameShape same)
  cases h with
  | getUser id id' => exact gets (sameShape_selectWhere _ _ id id')
  | addUser id id' columns => exact gets (sameShape_insertUser tables id id' columns)
  | addUserWithKey id id' columns key key' =>
    have user := Statement.unbound_written_of_sameShape
      (sameShape_insertUser tables id id' columns)
    have added := Statement.unbound_written_of_sameShape
      (sameShape_insertKey tables.key key key')
    simp only [plan?, Plan.addUserWithKey, Option.map_some, Call.unbound, List.map_cons, user,
      added, List.map_nil]
  | deleteUser id id' => exact runs (sameShape_deleteWhere _ _ id id')
  | @updateUserAttributes id id' attributes attributes' columns =>
    have empty := Row.isEmpty_eq_of_columns_eq columns
    simp only [plan?, ← empty]
    split_ifs
    · rfl
    · exact runs (sameShape_updateWhereId _ id id' columns)
  | getSessionAndUser id id' => exact gets (sameShape_joinSession tables id id')
  | getSession id id' => exact gets (sameShape_selectWhere _ _ id id')
  | getSessionsOfUser userId userId' => exact gets (sameShape_selectWhere _ _ userId userId')
  | setSession session session' => exact runs (sameShape_insertSession _ session session')
  | deleteSession id id' => exact runs (sameShape_deleteWhere _ _ id id')
  | deleteSessionsOfUser userId userId' => exact runs (sameShape_deleteWhere _ _ userId userId')
  | setKey key key' => exact runs (sameShape_insertKey _ key key')
  | getKey id id' => exact gets (sameShape_selectWhere _ _ id id')
  | getKeysOfUser userId userId' => exact gets (sameShape_selectWhere _ _ userId userId')
  | updateKeyPassword id id' password password' =>
    exact runs (sameShape_updateWhereId _ id id' rfl)
  | deleteKeysOfUser userId userId' => exact runs (sameShape_deleteWhere _ _ userId userId')
  | deleteNonPrimaryKey id id' => exact runs (sameShape_deleteNonPrimary _ id id')

/-- Two requests of the same shape to stores with the same tables make the same calls, whatever the
databases answer: as many, of the same kinds and with the same texts.  They differ at most in what
is bound. -/
theorem calls_of_sameShape (tables : Tables) {request request' : Request}
    (h : request.SameShape request') (settings settings' : Settings) (script script' : Script) :
    (request.execute ⟨settings, tables⟩ script).calls.map Call.unbound =
      (request'.execute ⟨settings', tables⟩ script').calls.map Call.unbound := by
  rw [calls_execute, calls_execute, ← Option.toList_map, ← Option.toList_map, Option.map_map,
    Option.map_map]
  exact congrArg Option.toList (h.plan?_eq tables)

/-- Two users with keys of which one looks like SQL; the database refuses one of them. -/
theorem calls_of_sameShape_sql_in_arguments :
    SameShape
        (.setUser "u1" (.ofList [("a`", .null)]) (some ⟨"k1", "u1", true, none, none⟩))
        (.setUser "u' OR '1" (.ofList [("a`", .text "`?")])
          (some ⟨"`", "?", false, some "--", some 0⟩)) ∧
      (execute ⟨.default, .default⟩
          (.setUser "u1" (.ofList [("a`", .null)]) (some ⟨"k1", "u1", true, none, none⟩))
          []).calls.map Call.unbound =
        (execute ⟨.default, .default⟩
          (.setUser "u' OR '1" (.ofList [("a`", .text "`?")])
            (some ⟨"`", "?", false, some "--", some 0⟩))
          [.failing (.backend "disk full" false)]).calls.map Call.unbound := by
  have same : SameShape
      (.setUser "u1" (.ofList [("a`", .null)]) (some ⟨"k1", "u1", true, none, none⟩))
      (.setUser "u' OR '1" (.ofList [("a`", .text "`?")])
        (some ⟨"`", "?", false, some "--", some 0⟩)) :=
    .addUserWithKey _ _ (by decide) _ _
  exact ⟨same, calls_of_sameShape .default same _ _ _ _⟩

end Request

end Account

end BoundSql
