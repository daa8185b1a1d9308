import BoundSql.Account.Request
import BoundSql.Proofs.Execution.Calls

/-!
# What requests do

Every request to an account store follows one scheme.  It makes one call to the database, which it
chooses before it sees an answer; a failure of the call is explained by the violations that the
request expects; and an answer is decoded.  A `Plan` is the choice of these parts, `Plan.execute`
the scheme, and `execute_eq` says that every request executes its plan.  The one exception is the
update of a user without columns, which does nothing.
-/

namespace BoundSql

namespace Account

theorem explain_nil {α : Type} (tables : Tables) (o : Outcome Fault α) :
    explain tables [] o = o.mapError .query := by
  obtain ⟨result, trace, rest⟩ := o
  cases result with
  | ok a => rfl
  | error fault =>
    have h : Violation.meaning? tables [] fault = none := by
      cases fault <;> rfl
    simp only [explain, h]
    rfl

/-- A failure is explained whatever is done with an answer. -/
theorem explain_withResult {α β : Type} (tables : Tables) (expected : List Violation)
    (o : Outcome Fault α) (f : α → β) :
    explain tables expected (o.withResult (f <$> ·)) =
      (explain tables expected o).withResult (f <$> ·) := by
  obtain ⟨result, trace, rest⟩ := o
  cases result with
  | ok a => rfl
  | error fault =>
    have h : (f <$> (.error fault : Except Fault α)) = .error fault := rfl
    simp only [explain, Outcome.withResult, h]
    cases Violation.meaning? tables expected fault <;> rfl

/-! ## Plans -/

/-- What a request does: the operation and the call that it performs, the violations by which it
explains a failure of the call, and how it decodes an answer. -/
structure Plan where
  op : Operation
  call : Call
  expected : List Violation
  decode : Response → Except Failure Answer

/-- Executes a plan. -/
def Plan.execute (store : Store) (plan : Plan) (script : Script) : Outcome Failure Answer :=
  (explain store.tables plan.expected
    (store.settings.perform plan.op plan.call.statements plan.call id script)).andThen plan.decode

namespace Plan

/-- Reads the first row, if there is one. -/
def decodeFirst {α : Type} (read : Row → Except Fault α) (f : Option α → Answer) (r : Response) :
    Except Failure Answer :=
  f <$> (match r.rows.first? with
    | some row => some <$> read row
    | none => .ok none : Except Fault (Option α)).mapError .query

/-- Reads all rows. -/
def decodeAll {α : Type} (read : Row → Except Fault α) (f : List α → Answer) (r : Response) :
    Except Failure Answer :=
  f <$> (r.rows.toList.mapM read).mapError .query

/-- Reads the user who has been stored off the row that has come back. -/
def decodeStored (row : Option Row) : Except Failure Answer :=
  match row with
  | some row => .stored <$> (User.ofRow row).mapError .query
  | none => .error Store.noUserRow

/-- Reads nothing. -/
def decodeNothing (_ : Response) : Except Failure Answer := .ok .done

/-- Asks for the first row of a query. -/
def first {α : Type} (cs : List Clause) (read : Row → Except Fault α) (f : Option α → Answer) :
    Plan :=
  ⟨.get, .get (.written cs), [], decodeFirst read f⟩

/-- Asks for all rows of a query. -/
def all {α : Type} (cs : List Clause) (read : Row → Except Fault α) (f : List α → Answer) : Plan :=
  ⟨.getAll, .get (.written cs), [], decodeAll read f⟩

/-- Executes clauses for their effect. -/
def effect (cs : List Clause) (expected : List Violation) : Plan :=
  ⟨.run, .run (.written cs), expected, decodeNothing⟩

/-! ### Executing plans -/

variable (store : Store) (script : Script)

theorem execute_first {α : Type} {cs : List Clause} (h : ∀ c ∈ cs, c.fault? = none)
    (read : Row → Except Fault α) (f : Option α → Answer) :
    Request.answer f ((store.settings.getWith read cs script).mapError .query) =
      (first cs read f).execute store script := by
  unfold Settings.getWith Plan.execute first
  rw [store.settings.performClauses_eq script .get h, explain_nil]
  simp only [Call.statements]
  obtain ⟨result, trace, rest⟩ :=
    store.settings.perform .get [.written cs] (.get (.written cs)) id script
  cases result <;> rfl

theorem execute_all {α : Type} {cs : List Clause} (h : ∀ c ∈ cs, c.fault? = none)
    (read : Row → Except Fault α) (f : List α → Answer) :
    Request.answer f ((store.settings.getAllWith read cs script).mapError .query) =
      (all cs read f).execute store script := by
  unfold Settings.getAllWith Plan.execute all
  rw [store.settings.performClauses_eq script .getAll h, explain_nil]
  simp only [Call.statements]
  obtain ⟨result, trace, rest⟩ :=
    store.settings.perform .getAll [.written cs] (.get (.written cs)) id script
  cases result <;> rfl

theorem execute_explained {cs : List Clause} (h : ∀ c ∈ cs, c.fault? = none)
    (expected : List Violation) :
    Request.answer (fun _ => .done) (explain store.tables expected (store.settings.run cs script)) =
      (effect cs expected).execute store script := by
  unfold Settings.run Plan.execute effect
  rw [store.settings.performClauses_eq script .run h, explain_withResult]
  simp only [Call.statements]
  obtain ⟨result, trace, rest⟩ := explain store.tables expected
    (store.settings.perform .run [.written cs] (.run (.written cs)) id script)
  cases result <;> rfl

theorem execute_effect {cs : List Clause} (h : ∀ c ∈ cs, c.fault? = none) :
    Request.answer (fun _ => .done) ((store.settings.run cs script).mapError .query) =
      (effect cs []).execute store script := by
  rw [← explain_nil store.tables]
  exact execute_explained store script h []

/-- Creates a user without a key. -/
def addUser (tables : Tables) (id : String) (attributes : Row) : Plan :=
  ⟨.get, .get (.written (Store.insertUser tables id attributes)), [],
    fun r => decodeStored r.rows.first?⟩

/-- Creates a user together with a key. -/
def addUserWithKey (tables : Tables) (id : String) (attributes : Row) (key : Key) : Plan :=
  ⟨.batch, .batch [.written (Store.insertUser tables id attributes),
      .written [.insertInto tables.key key.toRow]], [.duplicateKeyId],
    fun r => decodeStored (r.batch.head?.bind List.head?)⟩

/-! ### Clauses without faults -/

theorem isEmpty_insert (r : Row) (c : String) (v : Value) : (r.insert c v).isEmpty = false := by
  have h : Row.put c v r.entries ≠ [] := by
    cases r.entries with
    | nil => exact List.cons_ne_nil _ _
    | cons e es =>
      unfold Row.put
      split_ifs <;> exact List.cons_ne_nil _ _
  exact Bool.eq_false_iff.2 fun e => h (List.isEmpty_iff.1 e)

theorem isEmpty_extend {r : Row} (h : r.isEmpty = false) (es : List (String × Value)) :
    (r.extend es).isEmpty = false := by
  induction es generalizing r with
  | nil => exact h
  | cons e es ih => exact ih (isEmpty_insert r e.1 e.2)

theorem isEmpty_toRow_key (key : Key) : key.toRow.isEmpty = false :=
  isEmpty_extend (isEmpty_insert Row.empty "id" (toValue key.id)) _

theorem isEmpty_toRow_session (session : Session) : session.toRow.isEmpty = false :=
  isEmpty_extend (isEmpty_insert Row.empty "id" (toValue session.id)) _

theorem isEmpty_newRow (userId : String) (attributes : Row) :
    (User.newRow userId attributes).isEmpty = false :=
  isEmpty_extend (isEmpty_insert Row.empty "id" (toValue userId)) _

theorem fault?_insertInto (table : String) {row : Row} (h : row.isEmpty = false) :
    (Clause.insertInto table row).fault? = none := by
  simp [Clause.fault?, h]

theorem fault?_update (table : String) {row : Row} (h : row.isEmpty = false) :
    (Clause.update table row).fault? = none := by
  simp [Clause.fault?, h]

theorem fault?_pair {first second : Clause} (h : first.fault? = none)
    (h' : second.fault? = none) : ∀ c ∈ [first, second], c.fault? = none :=
  List.forall_mem_cons.2 ⟨h, List.forall_mem_singleton.2 h'⟩

theorem fault?_insertUser (tables : Tables) (userId : String) (attributes : Row) :
    ∀ c ∈ Store.insertUser tables userId attributes, c.fault? = none :=
  fault?_pair (fault?_insertInto _ (isEmpty_newRow userId attributes)) rfl

theorem fault?_insertKey (tables : Tables) (key : Key) :
    ∀ c ∈ [Clause.insertInto tables.key key.toRow], c.fault? = none :=
  List.forall_mem_singleton.2 (fault?_insertInto _ (isEmpty_toRow_key key))

theorem fault?_insertSession (tables : Tables) (session : Session) :
    ∀ c ∈ [Clause.insertInto tables.session session.toRow], c.fault? = none :=
  List.forall_mem_singleton.2 (fault?_insertInto _ (isEmpty_toRow_session session))

theorem fault?_updateWhereId (table userId : String) {row : Row} (h : row.isEmpty = false) :
    ∀ c ∈ Store.updateWhereId table userId row, c.fault? = none :=
  fault?_pair (fault?_update _ h) rfl

theorem fault?_joinSession (tables : Tables) (sessionId : String) :
    ∀ c ∈ Store.joinSession tables sessionId, c.fault? = none :=
  List.forall_mem_cons.2 ⟨rfl, fault?_pair rfl rfl⟩

/-! ### Creating users -/

theorem decodeStored_eq (row : Option Row) :
    decodeStored row = .stored <$> (match row with
      | some row => (User.ofRow row).mapError .query
      | none => .error Store.noUserRow : Except Failure User) := by
  cases row <;> rfl

/-- The row is decoded before or after the query is over, with the same result. -/
theorem decodeStored_of_read (row : Option Row) :
    decodeStored row = .stored <$> ((match row with
      | some row => some <$> User.ofRow row
      | none => .ok none : Except Fault (Option User)).mapError .query >>= fun user =>
        (match user with
          | some u => .ok u
          | none => .error Store.noUserRow : Except Failure User)) := by
  cases row with
  | none => rfl
  | some row =>
    simp only [decodeStored]
    cases User.ofRow row <;> rfl

theorem execute_addUser (userId : String) (attributes : Row) :
    Request.answer .stored (store.addUser userId attributes script) =
      (addUser store.tables userId attributes).execute store script := by
  have faultless := fault?_insertUser store.tables userId attributes
  unfold Store.addUser Settings.get Settings.getWith Plan.execute addUser
  rw [store.settings.performClauses_eq script .get faultless, explain_nil]
  simp only [Call.statements]
  obtain ⟨result, trace, rest⟩ := store.settings.perform .get
    [.written (Store.insertUser store.tables userId attributes)]
    (.get (.written (Store.insertUser store.tables userId attributes))) id script
  cases result with
  | error fault => rfl
  | ok r =>
    simp only [Outcome.andThen, Outcome.mapError, Outcome.withResult, Request.answer]
    congr 1
    exact (decodeStored_of_read r.rows.first?).symm

theorem execute_addUserWithKey (userId : String) (attributes : Row) (key : Key) :
    Request.answer .stored (store.addUserWithKey userId attributes key script) =
      (addUserWithKey store.tables userId attributes key).execute store script := by
  have hu := Statement.ofClauses_eq_ok_iff.2 ⟨fault?_insertUser store.tables userId attributes, rfl⟩
  have hk := Statement.ofClauses_eq_ok_iff.2 ⟨fault?_insertKey store.tables key, rfl⟩
  unfold Store.addUserWithKey Plan.execute addUserWithKey Settings.batch
  simp only [hu, hk, bind, Except.bind, pure, Except.pure, Call.statements]
  rw [store.settings.perform_eq_withResult script .batch, explain_withResult]
  obtain ⟨result, trace, rest⟩ := explain store.tables [.duplicateKeyId]
    (store.settings.perform .batch
      [.written (Store.insertUser store.tables userId attributes),
        .written [.insertInto store.tables.key key.toRow]]
      (.batch [.written (Store.insertUser store.tables userId attributes),
        .written [.insertInto store.tables.key key.toRow]]) id script)
  cases result with
  | error fault => rfl
  | ok r =>
    simp only [Outcome.andThen, Outcome.withResult, Request.answer]
    congr 1
    exact (decodeStored_eq (r.batch.head?.bind List.head?)).symm

/-! ### What the caller sees of the response -/

/-- If the caller sees no fault, a plan decodes the answer. -/
theorem execute_of_answer (plan : Plan) {store : Store} {script : Script}
    (h : script.next.fault? store.settings.timeout = none) :
    plan.execute store script =
      ⟨plan.decode script.next, store.settings.callTrace plan.op plan.call none, script.rest⟩ := by
  unfold execute
  rw [Settings.perform_eq, Response.result_eq, h]
  rfl

/-- If the caller sees a fault, a plan fails with what the fault means, which is logged last. -/
theorem execute_of_fault (plan : Plan) {store : Store} {script : Script} {fault : Fault}
    (h : script.next.fault? store.settings.timeout = some fault) :
    plan.execute store script =
      ⟨.error ((Violation.meaning? store.tables plan.expected fault).elim (.query fault)
          Violation.failure),
        store.settings.callTrace plan.op plan.call (some fault) ++
          (Violation.meaning? store.tables plan.expected fault).toList.map fun v =>
            .log (.explained fault.message v.code),
        script.rest⟩ := by
  unfold execute
  rw [Settings.perform_eq, Response.result_eq, h]
  simp only [explain]
  cases Violation.meaning? store.tables plan.expected fault with
  | some v => rfl
  | none =>
    simp only [Option.toList_none, List.map_nil, List.append_nil]
    rfl

theorem result_execute_of_fault (plan : Plan) {store : Store} {script : Script} {fault : Fault}
    (h : script.next.fault? store.settings.timeout = some fault) :
    (plan.execute store script).result =
      .error ((Violation.meaning? store.tables plan.expected fault).elim (.query fault)
        Violation.failure) :=
  congrArg Outcome.result (plan.execute_of_fault h)

end Plan

/-- The plan of a request; without columns to write there is none. -/
def Request.plan? (tables : Tables) : Request → Option Plan
  | .getUser id => some (.first (Store.selectWhere tables.user "id" id) User.ofRow .user)
  | .setUser id attributes none => some (.addUser tables id attributes)
  | .setUser id attributes (some key) => some (.addUserWithKey tables id attributes key)
  | .deleteUser id => some (.effect (Store.deleteWhere tables.user "id" id) [])
  | .updateUserAttributes id attributes =>
    if attributes.isEmpty then none
    else some (.effect (Store.updateWhereId tables.user id attributes) [])
  | .getSessionAndUser id =>
    some (.first (Store.joinSession tables id) Store.readJoined .sessionAndUser)
  | .getSession id =>
    some (.first (Store.selectWhere tables.session "id" id) Session.ofRow .session)
  | .getSessionsOfUser userId =>
    some (.all (Store.selectWhere tables.session "user_id" userId) Session.ofRow .sessions)
  | .setSession session =>
    some (.effect [.insertInto tables.session session.toRow] [.invalidUserId, .duplicateSessionId])
  | .deleteSession id => some (.effect (Store.deleteWhere tables.session "id" id) [])
  | .deleteSessionsOfUser userId =>
    some (.effect (Store.deleteWhere tables.session "user_id" userId) [])
  | .setKey key =>
    some (.effect [.insertInto tables.key key.toRow] [.invalidUserId, .duplicateKeyId])
  | .getKey id => some (.first (Store.selectWhere tables.key "id" id) Key.ofRow .key)
  | .getKeysOfUser userId =>
    some (.all (Store.selectWhere tables.key "user_id" userId) Key.ofRow .keys)
  | .updateKeyPassword id password =>
    some (.effect (Store.updateWhereId tables.key id
      (Row.empty.insert "hashed_password" (toValue password))) [])
  | .deleteKeysOfUser userId =>
    some (.effect (Store.deleteWhere tables.key "user_id" userId) [])
  | .deleteNonPrimaryKey id =>
    some (.effect [.deleteFrom tables.key, .filterAll (Store.nonPrimaryConditions id)] [])

/-- Every request executes its plan. -/
theorem Request.execute_eq (store : Store) (request : Request) (script : Script) :
    request.execute store script = match request.plan? store.tables with
      | some plan => plan.execute store script
      | none => .silent (.ok .done) script := by
  have select (table column value : String) :
      ∀ c ∈ Store.selectWhere table column value, c.fault? = none := Plan.fault?_pair rfl rfl
  have delete (table column value : String) :
      ∀ c ∈ Store.deleteWhere table column value, c.fault? = none := Plan.fault?_pair rfl rfl
  cases request with
  | getUser id => exact Plan.execute_first store script (select _ _ id) _ _
  | setUser id attributes key =>
    cases key with
    | none => exact Plan.execute_addUser store script id attributes
    | some key => exact Plan.execute_addUserWithKey store script id attributes key
  | deleteUser id => exact Plan.execute_effect store script (delete _ _ id)
  | updateUserAttributes id attributes =>
    cases h : attributes.isEmpty with
    | true =>
      simp only [execute, plan?, Store.updateUserAttributes, h, if_true]
      rfl
    | false =>
      simp only [execute, plan?, Store.updateUserAttributes, h]
      exact Plan.execute_effect store script (Plan.fault?_updateWhereId _ id h)
  | getSessionAndUser id =>
    exact Plan.execute_first store script (Plan.fault?_joinSession store.tables id) _ _
  | getSession id => exact Plan.execute_first store script (select _ _ id) _ _
  | getSessionsOfUser userId => exact Plan.execute_all store script (select _ _ userId) _ _
  | setSession session =>
    exact Plan.execute_explained store script (Plan.fault?_insertSession store.tables session) _
  | deleteSession id => exact Plan.execute_effect store script (delete _ _ id)
  | deleteSessionsOfUser userId => exact Plan.execute_effect store script (delete _ _ userId)
  | setKey key =>
    exact Plan.execute_explained store script (Plan.fault?_insertKey store.tables key) _
  | getKey id => exact Plan.execute_first store script (select _ _ id) _ _
  | getKeysOfUser userId => exact Plan.execute_all store script (select _ _ userId) _ _
  | updateKeyPassword id password =>
    exact Plan.execute_effect store script
      (Plan.fault?_updateWhereId _ id (Plan.isEmpty_insert Row.empty _ _))
  | deleteKeysOfUser userId => exact Plan.execute_effect store script (delete _ _ userId)
  | deleteNonPrimaryKey id => exact Plan.execute_effect store script (Plan.fault?_pair rfl rfl)

/-! ## What is handed to the database -/

theorem calls_explain {α : Type} (tables : Tables) (expected : List Violation)
    (o : Outcome Fault α) : (explain tables expected o).calls = o.calls := by
  obtain ⟨result, trace, rest⟩ := o
  cases result with
  | ok a => rfl
  | error fault =>
    simp only [explain, Outcome.calls]
    cases Violation.meaning? tables expected fault with
    | none => rfl
    | some v => exact (recordedCalls_append trace _).trans (List.append_nil _)

/-- A plan makes its call and no other, whatever the database answers. -/
theorem Plan.calls_execute (plan : Plan) (store : Store) (script : Script) :
    (plan.execute store script).calls = [plan.call] := by
  have h : (plan.execute store script).calls = (explain store.tables plan.expected
      (store.settings.perform plan.op plan.call.statements plan.call id script)).calls := rfl
  rw [h, calls_explain, Settings.perform_eq]
  exact store.settings.recordedCalls_callTrace plan.op plan.call _

/-- A request makes the call of its plan, whatever the database answers. -/
theorem Request.calls_execute (store : Store) (request : Request) (script : Script) :
    (request.execute store script).calls = ((request.plan? store.tables).map Plan.call).toList := by
  rw [execute_eq]
  cases request.plan? store.tables with
  | none => rfl
  | some plan => exact plan.calls_execute store script

end Account

end BoundSql
