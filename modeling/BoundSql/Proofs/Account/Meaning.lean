import BoundSql.Proofs.Account.Requests
import BoundSql.Text.Search

/-!
# What failures mean

Of the words of a database a request gives a meaning only to those about the constraints that its
own row can violate, and it gives it to nothing else (`Request.Means`).  A session and a key belong
to a user, and that there is no such user goes before an identifier that is taken.
-/

namespace BoundSql

namespace Account

/-! ## The words of a database -/

/-- The words of a database contain a phrase. -/
def Says (words phrase : String) : Prop := phrase.toList <:+: words.toList

instance (words phrase : String) : Decidable (Says words phrase) :=
  decidable_of_iff (Text.occursIn phrase.toList words.toList = true) Text.occursIn_iff

/-- The words of a database are about a reference to nothing. -/
def SaysForeign (words : String) : Prop := Says words "FOREIGN KEY constraint failed"

instance (words : String) : Decidable (SaysForeign words) :=
  inferInstanceAs (Decidable (Says _ _))

/-- The words of a database are about a value that is taken, and name the column `id` of a table. -/
def SaysTaken (words table : String) : Prop :=
  Says words "UNIQUE constraint failed" ∧ Says words (table ++ ".id")

namespace Violation

theorem explains_invalidUserId_iff (tables : Tables) (words : String) :
    explains tables words.toList .invalidUserId = true ↔ SaysForeign words := by
  unfold SaysForeign Says
  rw [explains, Text.occursIn_iff]

theorem idTaken_iff (table words : String) :
    idTaken table words.toList = true ↔ SaysTaken words table := by
  unfold SaysTaken Says
  rw [idTaken, Bool.and_eq_true, Text.occursIn_iff, Text.occursIn_iff]

variable {tables : Tables} {own v : Violation} {words : String} {wrapped : Bool}

theorem meaning?_nil_ne_some (tables : Tables) (fault : Fault) (v : Violation) :
    meaning? tables [] fault ≠ some v := by
  cases fault <;> exact nofun

theorem meaning?_cons_eq_some_iff {u : Violation} {expected : List Violation} :
    meaning? tables (u :: expected) (.backend words wrapped) = some v ↔
      u.explains tables words.toList = true ∧ u = v ∨
        ¬ u.explains tables words.toList = true ∧
          meaning? tables expected (.backend words wrapped) = some v := by
  simp only [meaning?, Fault.backendText?, Option.bind_some, List.find?_cons_eq_some,
    Bool.not_eq_true', Bool.not_eq_true]

theorem meaning?_own_eq_some_iff :
    meaning? tables [own] (.backend words wrapped) = some v ↔
      own.explains tables words.toList = true ∧ own = v := by
  rw [meaning?_cons_eq_some_iff]
  exact or_iff_left fun h => nomatch h.2

theorem meaning?_user_own_eq_some_iff :
    meaning? tables [.invalidUserId, own] (.backend words wrapped) = some v ↔
      SaysForeign words ∧ .invalidUserId = v ∨
        ¬ SaysForeign words ∧ own.explains tables words.toList = true ∧ own = v := by
  rw [meaning?_cons_eq_some_iff, meaning?_own_eq_some_iff, explains_invalidUserId_iff]

theorem failure_inj {u v : Violation} : u.failure = v.failure ↔ u = v := by
  cases u <;> cases v <;> simp [failure]

end Violation

/-! ## What a fault means to a request -/

/-- What a fault means to a request.  Only words of the database mean something, and only to a
request that inserts a session or a key.  To one that creates a user, a reference to nothing means
nothing. -/
inductive Request.Means (tables : Tables) : Request → Fault → Violation → Prop
  | userOfSession (session : Session) {words : String} (wrapped : Bool)
    (foreign : SaysForeign words) :
    Means tables (.setSession session) (.backend words wrapped) .invalidUserId
  | session (session : Session) {words : String} (wrapped : Bool) (known : ¬ SaysForeign words)
    (taken : SaysTaken words tables.session) :
    Means tables (.setSession session) (.backend words wrapped) .duplicateSessionId
  | userOfKey (key : Key) {words : String} (wrapped : Bool) (foreign : SaysForeign words) :
    Means tables (.setKey key) (.backend words wrapped) .invalidUserId
  | key (key : Key) {words : String} (wrapped : Bool) (known : ¬ SaysForeign words)
    (taken : SaysTaken words tables.key) :
    Means tables (.setKey key) (.backend words wrapped) .duplicateKeyId
  | keyOfUser (id : String) (attributes : Row) (key : Key) {words : String} (wrapped : Bool)
    (taken : SaysTaken words tables.key) :
    Means tables (.setUser id attributes (some key)) (.backend words wrapped) .duplicateKeyId

theorem Request.means_iff {tables : Tables} {request : Request} {plan : Plan}
    (h : request.plan? tables = some plan) {fault : Fault} {v : Violation} :
    request.Means tables fault v ↔ Violation.meaning? tables plan.expected fault = some v := by
  cases fault with
  | backend words wrapped =>
    -- Three requests expect a violation; to the others nothing is meant and nothing is found.
    have session : Violation.explains tables words.toList .duplicateSessionId = true ↔
        SaysTaken words tables.session := Violation.idTaken_iff tables.session words
    have key : Violation.explains tables words.toList .duplicateKeyId = true ↔
        SaysTaken words tables.key := Violation.idTaken_iff tables.key words
    cases request with
    | setSession row =>
      cases h
      simp only [Plan.effect, Violation.meaning?_user_own_eq_some_iff, session]
      constructor
      · intro means
        cases means with
        | userOfSession _ _ said => exact .inl ⟨said, rfl⟩
        | session _ _ known taken => exact .inr ⟨known, taken, rfl⟩
      · rintro (⟨said, rfl⟩ | ⟨known, taken, rfl⟩)
        · exact .userOfSession row wrapped said
        · exact .session row wrapped known taken
    | setKey row =>
      cases h
      simp only [Plan.effect, Violation.meaning?_user_own_eq_some_iff, key]
      constructor
      · intro means
        cases means with
        | userOfKey _ _ said => exact .inl ⟨said, rfl⟩
        | key _ _ known taken => exact .inr ⟨known, taken, rfl⟩
      · rintro (⟨said, rfl⟩ | ⟨known, taken, rfl⟩)
        · exact .userOfKey row wrapped said
        · exact .key row wrapped known taken
    | setUser id attributes row =>
      cases row with
      | none =>
        cases h
        exact iff_of_false (fun means => by cases means) (Violation.meaning?_nil_ne_some _ _ v)
      | some row =>
        cases h
        simp only [Plan.addUserWithKey, Violation.meaning?_own_eq_some_iff, key]
        constructor
        · intro means
          cases means with
          | keyOfUser _ _ _ _ taken => exact ⟨taken, rfl⟩
        · rintro ⟨taken, rfl⟩
          exact .keyOfUser id attributes row wrapped taken
    | updateUserAttributes id attributes =>
      simp only [plan?] at h
      split_ifs at h
      cases h
      exact iff_of_false (fun means => by cases means) (Violation.meaning?_nil_ne_some _ _ v)
    | _ =>
      cases h
      exact iff_of_false (fun means => by cases means) (Violation.meaning?_nil_ne_some _ _ v)
  | _ => exact iff_of_false (fun means => by cases means) (Option.some_ne_none v).symm

namespace Request

/-- A request that meets a fault fails with a violation if and only if this is what the fault means
to it, and otherwise with the fault as it is.  That a fault has been given a meaning is logged after
the failure of the call, with the code by which a caller knows the result, and nothing is logged
otherwise. -/
theorem result_of_fault_iff_means {store : Store} {script : Script} {request : Request}
    {fault : Fault} (asked : request.isIdle = false)
    (failed : script.next.fault? store.settings.timeout = some fault) :
    let o := request.execute store script
    (∀ v : Violation, o.result = .error v.failure ↔ request.Means store.tables fault v) ∧
    (o.result = .error (.query fault) ↔ ∀ v, ¬ request.Means store.tables fault v) ∧
    ∃ op call,
      (∀ v, request.Means store.tables fault v →
        v.failure.code? = some v.code ∧
        o.trace = store.settings.callTrace op call (some fault) ++
          [.log (.explained fault.message v.code)]) ∧
      ((∀ v, ¬ request.Means store.tables fault v) →
        o.trace = store.settings.callTrace op call (some fault)) := by
  obtain ⟨plan, hp⟩ := exists_plan? store.tables asked
  intro o
  have executed := (execute_of_plan? store hp script).trans (plan.execute_of_fault failed)
  simp only [o, executed, means_iff hp]
  cases Violation.meaning? store.tables plan.expected fault with
  | none =>
    refine ⟨fun v => ⟨fun h => ?_, nofun⟩, ⟨fun _ => nofun, fun _ => rfl⟩, plan.op, plan.call, nofun,
      fun _ => List.append_nil _⟩
    exact absurd (Except.error.inj h).symm (Violation.failure_ne_query v fault)
  | some u =>
    refine ⟨fun v => ?_, ⟨fun h => ?_, fun h => absurd rfl (h u)⟩, plan.op, plan.call, ?_,
      fun h => absurd rfl (h u)⟩
    · rw [Except.error.injEq, Option.elim_some, Violation.failure_inj, Option.some.injEq]
    · exact absurd (Except.error.inj h) (Violation.failure_ne_query u fault)
    · rintro v ⟨rfl⟩
      exact ⟨u.code?_failure, rfl⟩

/-- Of a session without a user whose identifier is taken too it is said that there is no user. -/
theorem result_of_fault_iff_means_session_without_user :
    let fault : Fault := .backend
      "UNIQUE constraint failed: auth_session.id, FOREIGN KEY constraint failed" true
    let request := setSession ⟨"s", "u", 1, 2⟩
    let o := request.execute ⟨.default, .default⟩ [.failing fault]
    request.isIdle = false ∧
      (Script.next [.failing fault]).fault? Settings.default.timeout = some fault ∧
      o.result = .error .invalidUserId ∧
      ∃ op call, o.trace = Settings.default.callTrace op call (some fault) ++
        [.log (.explained fault.message "AUTH_INVALID_USER_ID")] := by
  intro fault request o
  have means : request.Means Tables.default fault .invalidUserId :=
    .userOfSession _ true (by decide)
  obtain ⟨result, -, op, call, explained, -⟩ :=
    @result_of_fault_iff_means ⟨.default, .default⟩ [.failing fault] request fault rfl rfl
  exact ⟨rfl, rfl, (result .invalidUserId).2 means, op, call, (explained .invalidUserId means).2⟩

end Request

end Account

end BoundSql
