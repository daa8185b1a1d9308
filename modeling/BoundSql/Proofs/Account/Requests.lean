import BoundSql.Proofs.Account.Plan
import BoundSql.Proofs.Execution.Timeouts
import BoundSql.Proofs.Row

/-!
# Requests are exchanges

A request asks for one call, which it chooses before it sees an answer, or for none, when it is
idle.  So it is an exchange (`Request.execute_eq_exchange`), and the calls of a run of requests do
not depend on what the database answers.  The clauses of a request are never refused; a refusal
among its results is one that the database has reported (`Request.calls_chosen_in_advance`).  And
like a step a request is touched by a limit of time only where its own call takes longer
(`timeouts_are_local`).
-/

namespace BoundSql

/-- A caller sees that clauses are refused if and only if the response says so in time. -/
theorem Response.fault?_eq_invalidClause_iff {limit : Option Duration} {r : Response}
    {cause : ClauseFault} :
    r.fault? limit = some (.invalidClause cause) ↔
      r.failure = some (.invalidClause cause) ∧ ∀ d ∈ limit, ¬ d < r.delay := by
  cases limit with
  | none => simp [fault?]
  | some d => by_cases late : d < r.delay <;> simp [fault?, late]

namespace Account

theorem Violation.failure_ne_query (v : Violation) (fault : Fault) : v.failure ≠ .query fault := by
  cases v <;> exact nofun

/-! ## What plans read -/

namespace Plan

/-- A plan reads nothing but what a response holds, and fails to do so only for a column. -/
structure Reads (plan : Plan) : Prop where
  atOnce : ∀ r, plan.decode r.atOnce = plan.decode r
  column : ∀ r fault, plan.decode r = .error (.query fault) →
    ∃ column cause, fault = .column column cause

/-- Decoding the result of reading columns fails only for a column. -/
theorem column_of_decode {α : Type} {x : Except Fault α} (h : Row.FailsAtColumn x)
    {f : α → Answer} {fault : Fault}
    (failed : f <$> x.mapError Failure.query = .error (.query fault)) :
    ∃ column cause, fault = .column column cause := by
  cases x with
  | ok a => exact nomatch failed
  | error seen =>
    cases failed
    exact h _ rfl

variable {α : Type} {read : Row → Except Fault α}

theorem reads_first (cs : List Clause) (h : ∀ row, Row.FailsAtColumn (read row))
    (f : Option α → Answer) : (first cs read f).Reads where
  atOnce _ := rfl
  column r fault failed := by
    refine column_of_decode ?_ failed
    cases r.rows.first? with
    | none => exact Row.failsAtColumn_ok none
    | some row => exact (h row).bind fun a => Row.failsAtColumn_ok (some a)

theorem reads_all (cs : List Clause) (h : ∀ row, Row.FailsAtColumn (read row))
    (f : List α → Answer) : (all cs read f).Reads where
  atOnce _ := rfl
  column r _ failed := column_of_decode (Row.failsAtColumn_mapM h r.rows.toList) failed

theorem reads_effect (cs : List Clause) (expected : List Violation) :
    (effect cs expected).Reads where
  atOnce _ := rfl
  column _ _ failed := nomatch failed

theorem failsAtColumn_user (row : Row) : Row.FailsAtColumn (User.ofRow row) :=
  (Row.failsAtColumn_read row "id").bind fun _ => Row.failsAtColumn_ok _

theorem failsAtColumn_session (row : Row) : Row.FailsAtColumn (Session.ofRow row) :=
  (Row.failsAtColumn_read row "id").bind fun _ =>
    (Row.failsAtColumn_read row "user_id").bind fun _ =>
      (Row.failsAtColumn_read row "active_expires").bind fun _ =>
        (Row.failsAtColumn_read row "idle_expires").bind fun _ => Row.failsAtColumn_ok _

theorem failsAtColumn_key (row : Row) : Row.FailsAtColumn (Key.ofRow row) :=
  (Row.failsAtColumn_read row "id").bind fun _ =>
    (Row.failsAtColumn_read row "user_id").bind fun _ =>
      (Row.failsAtColumn_read row "primary_key").bind fun _ =>
        (Row.failsAtColumn_read row "hashed_password").bind fun _ =>
          (Row.failsAtColumn_read row "expires").bind fun _ => Row.failsAtColumn_ok _

theorem failsAtColumn_joined (row : Row) : Row.FailsAtColumn (Store.readJoined row) :=
  (Row.failsAtColumn_read row "_session_id").bind fun _ =>
    (Row.failsAtColumn_read row "_session_user_id").bind fun _ =>
      (Row.failsAtColumn_read row "_session_active_expires").bind fun _ =>
        (Row.failsAtColumn_read row "_session_idle_expires").bind fun _ =>
          (failsAtColumn_user _).bind fun _ => Row.failsAtColumn_ok _

theorem column_of_decodeStored {row : Option Row} {fault : Fault}
    (failed : decodeStored row = .error (.query fault)) :
    ∃ column cause, fault = .column column cause := by
  cases row with
  | none => exact nomatch failed
  | some row => exact column_of_decode (failsAtColumn_user row) failed

theorem reads_addUser (tables : Tables) (id : String) (attributes : Row) :
    (addUser tables id attributes).Reads where
  atOnce _ := rfl
  column _ _ failed := column_of_decodeStored failed

theorem reads_addUserWithKey (tables : Tables) (id : String) (attributes : Row) (key : Key) :
    (addUserWithKey tables id attributes key).Reads where
  atOnce _ := rfl
  column _ _ failed := column_of_decodeStored failed

end Plan

theorem Request.reads_of_plan? {tables : Tables} {request : Request} {plan : Plan}
    (h : request.plan? tables = some plan) : plan.Reads := by
  cases request with
  | getUser id => cases h; exact Plan.reads_first _ Plan.failsAtColumn_user _
  | setUser id attributes key =>
    cases key with
    | none => cases h; exact Plan.reads_addUser tables id attributes
    | some key => cases h; exact Plan.reads_addUserWithKey tables id attributes key
  | updateUserAttributes id attributes =>
    simp only [plan?] at h
    split_ifs at h
    cases h
    exact Plan.reads_effect _ _
  | getSessionAndUser id => cases h; exact Plan.reads_first _ Plan.failsAtColumn_joined _
  | getSession id => cases h; exact Plan.reads_first _ Plan.failsAtColumn_session _
  | getSessionsOfUser userId => cases h; exact Plan.reads_all _ Plan.failsAtColumn_session _
  | getKey id => cases h; exact Plan.reads_first _ Plan.failsAtColumn_key _
  | getKeysOfUser userId => cases h; exact Plan.reads_all _ Plan.failsAtColumn_key _
  | _ => cases h; exact Plan.reads_effect _ _

/-! ## Exchanges -/

namespace Plan

/-- What a plan makes of what is seen of the response: an answer is decoded, and a fault is
explained, which is logged. -/
def conclude (tables : Tables) (plan : Plan) :
    Except Fault Response → Except Failure Answer × List Event
  | .ok r => (plan.decode r, [])
  | .error fault =>
    match Violation.meaning? tables plan.expected fault with
    | some v => (.error v.failure, [.explained fault.message v.code])
    | none => (.error (.query fault), [])

/-- A plan as an exchange. -/
def exchange (tables : Tables) (plan : Plan) : Exchange Failure Answer :=
  .asks plan.op plan.call (plan.conclude tables)

theorem execute_eq_exchange {plan : Plan} (h : plan.Reads) (store : Store) (script : Script) :
    plan.execute store script = (plan.exchange store.tables).execute store.settings script := by
  simp only [exchange, Exchange.execute, Exchange.report, Response.result_eq]
  cases seen : script.next.fault? store.settings.timeout with
  | some fault =>
    rw [plan.execute_of_fault seen]
    simp only [conclude]
    cases Violation.meaning? store.tables plan.expected fault <;> rfl
  | none =>
    rw [plan.execute_of_answer seen]
    simp only [conclude, h.atOnce, List.map_nil, List.append_nil]
    rfl

theorem result_eq_invalidClause_iff {plan : Plan} (h : plan.Reads) {store : Store}
    {script : Script} {cause : ClauseFault} :
    (plan.execute store script).result = .error (.query (.invalidClause cause)) ↔
      script.next.fault? store.settings.timeout = some (.invalidClause cause) := by
  cases seen : script.next.fault? store.settings.timeout with
  | some fault =>
    rw [plan.result_execute_of_fault seen]
    cases hv : Violation.meaning? store.tables plan.expected fault with
    | some v =>
      have explained : fault ≠ .invalidClause cause := by
        rintro rfl
        exact nomatch hv
      simp [explained, Violation.failure_ne_query]
    | none => simp
  | none =>
    rw [plan.execute_of_answer seen]
    refine iff_of_false (fun failed => ?_) nofun
    obtain ⟨column, why, refused⟩ := h.column _ _ failed
    exact nomatch refused

end Plan

namespace Request

/-- Whether a request asks nothing of the database: it writes columns, but there are none. -/
def isIdle : Request → Bool
  | .updateUserAttributes _ attributes => attributes.isEmpty
  | _ => false

theorem isSome_plan? (tables : Tables) (request : Request) :
    (request.plan? tables).isSome = !request.isIdle := by
  cases request with
  | setUser id attributes key => cases key <;> rfl
  | updateUserAttributes id attributes =>
    simp only [plan?, isIdle]
    cases attributes.isEmpty <;> rfl
  | _ => rfl

theorem plan?_of_isIdle (tables : Tables) {request : Request} (h : request.isIdle = true) :
    request.plan? tables = none := by
  have absent := isSome_plan? tables request
  rw [h] at absent
  exact Option.isNone_iff_eq_none.1 (Option.isSome_eq_false_iff.1 absent)

theorem exists_plan? (tables : Tables) {request : Request} (h : request.isIdle = false) :
    ∃ plan, request.plan? tables = some plan := by
  have present := isSome_plan? tables request
  rw [h] at present
  exact Option.isSome_iff_exists.1 present

theorem execute_of_isIdle {request : Request} (h : request.isIdle = true) (store : Store)
    (script : Script) : request.execute store script = .silent (.ok .done) script := by
  rw [execute_eq, plan?_of_isIdle store.tables h]

theorem execute_of_plan? (store : Store) {request : Request} {plan : Plan}
    (h : request.plan? store.tables = some plan) (script : Script) :
    request.execute store script = plan.execute store script := by
  rw [execute_eq, h]

/-- A request as an exchange. -/
def exchange (tables : Tables) (request : Request) : Exchange Failure Answer :=
  match request.plan? tables with
  | some plan => plan.exchange tables
  | none => .settled (.ok .done)

/-- Every request is an exchange with the database. -/
theorem execute_eq_exchange (store : Store) (request : Request) (script : Script) :
    request.execute store script =
      (request.exchange store.tables).execute store.settings script := by
  rw [execute_eq, exchange]
  cases h : request.plan? store.tables with
  | none => rfl
  | some plan => exact Plan.execute_eq_exchange (reads_of_plan? h) store script

theorem executeAll_eq_exchange (store : Store) (requests : List Request) (script : Script) :
    executeAll store requests script =
      Exchange.executeAll store.settings (requests.map (exchange store.tables)) script :=
  Exchange.executeAll_map store.settings (execute_eq_exchange store) requests script

/-! ## Calls -/

theorem result_eq_invalidClause_iff (store : Store) (request : Request) (script : Script)
    (cause : ClauseFault) :
    (request.execute store script).result = .error (.query (.invalidClause cause)) ↔
      request.isIdle = false ∧
        script.next.fault? store.settings.timeout = some (.invalidClause cause) := by
  cases h : request.isIdle with
  | true =>
    rw [execute_of_isIdle h]
    exact ⟨nofun, fun refused => nomatch refused.1⟩
  | false =>
    obtain ⟨plan, hp⟩ := exists_plan? store.tables h
    rw [execute_of_plan? store hp, plan.result_eq_invalidClause_iff (reads_of_plan? hp)]
    exact (and_iff_right rfl).symm

/-- A request makes one call with which it takes one response, or, when it is idle, none.  A user
with a key is created by one batch of two statements.  That clauses are refused is the result only
if the database has said so.  The calls of a run of requests are the same whatever the database
answers. -/
theorem calls_chosen_in_advance (tables : Tables) :
    (∀ request : Request,
      if request.isIdle then
        ∀ settings script, request.execute ⟨settings, tables⟩ script = .silent (.ok .done) script
      else
        ∃ call, ∀ settings script,
          (request.execute ⟨settings, tables⟩ script).calls = [call] ∧
          (request.execute ⟨settings, tables⟩ script).rest = script.rest) ∧
    (∀ id attributes key, ∃ user added,
      Statement.ofClauses
        [.insertInto tables.user (User.newRow id attributes), .returning ["*"]] = .ok user ∧
      Statement.ofClauses [.insertInto tables.key key.toRow] = .ok added ∧
      ∀ settings script,
        (execute ⟨settings, tables⟩ (.setUser id attributes (some key)) script).calls =
          [.batch [user, added]]) ∧
    (∀ (request : Request) (settings : Settings) (script : Script) (cause : ClauseFault),
      (request.execute ⟨settings, tables⟩ script).result = .error (.query (.invalidClause cause)) ↔
        request.isIdle = false ∧ script.next.failure = some (.invalidClause cause) ∧
          ∀ limit ∈ settings.timeout, ¬ limit < script.next.delay) ∧
    ∀ (requests : List Request) (settings settings' : Settings) (script script' : Script),
      callsOf (executeAll ⟨settings, tables⟩ requests script) =
        callsOf (executeAll ⟨settings', tables⟩ requests script') := by
  refine ⟨fun request => ?_, fun id attributes key => ?_, fun request settings script cause => ?_,
    fun requests settings settings' script script' => ?_⟩
  · split_ifs with h
    · exact fun settings script => execute_of_isIdle h ⟨settings, tables⟩ script
    · obtain ⟨plan, hp⟩ := exists_plan? tables (Bool.eq_false_iff.2 h)
      refine ⟨plan.call, fun settings script => ?_⟩
      rw [execute_of_plan? ⟨settings, tables⟩ hp]
      refine ⟨plan.calls_execute _ script, ?_⟩
      rw [Plan.execute_eq_exchange (reads_of_plan? hp)]
      rfl
  · have user := Statement.ofClauses_eq_ok_iff.2 ⟨Plan.fault?_insertUser tables id attributes, rfl⟩
    have added := Statement.ofClauses_eq_ok_iff.2 ⟨Plan.fault?_insertKey tables key, rfl⟩
    refine ⟨_, _, user, added, fun settings script => ?_⟩
    rw [calls_execute]
    rfl
  · rw [result_eq_invalidClause_iff, Response.fault?_eq_invalidClause_iff]
  · rw [executeAll_eq_exchange, executeAll_eq_exchange, Exchange.callsOf_executeAll,
      Exchange.callsOf_executeAll]

/-! ## Limits of time -/

theorem handsOnTimeouts (tables : Tables) (request : Request) :
    (request.exchange tables).HandsOnTimeouts fun limit => .query (.timeout limit) := by
  unfold exchange
  cases request.plan? tables with
  | none => trivial
  | some plan =>
    intro limit
    have meant : Violation.meaning? tables plan.expected (.timeout limit) = none := rfl
    simp only [Plan.conclude, meant]

end Request

/-- A limit of time changes a run only in the reports of the calls that take longer, be it a run of
steps or of requests.  A request says itself that the limit was exceeded, and nothing else. -/
theorem timeouts_are_local (ρ : Type) (tables : Tables) :
    LocalTimeouts (@Step.executeAll ρ) Fault.timeout ∧
    LocalTimeouts (fun settings => Request.executeAll ⟨settings, tables⟩)
      fun limit => .query (.timeout limit) :=
  ⟨localTimeouts_of_exchange Step.executeAll_eq Step.handsOnTimeouts,
    localTimeouts_of_exchange (fun settings => Request.executeAll_eq_exchange ⟨settings, tables⟩)
      (Request.handsOnTimeouts tables)⟩

end Account

end BoundSql
