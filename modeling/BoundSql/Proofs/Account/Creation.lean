import BoundSql.Proofs.Account.Meaning
import BoundSql.Proofs.Execution.RowShape

/-!
# The two ways to create a user

A user is inserted on its own by a query, or in a batch with its key.  Both ways send the same
insertion of the user and read the user off the first row that this insertion has returned, so they
answer the same (`Request.result_addUser`, `Request.result_addUserWithKey`).  They part only where a
failure means that the identifier of the key is taken (`Request.meaning?_addUserWithKey_eq_none_iff`).
-/

namespace BoundSql.Account

/-- The user who has been stored, read off the rows that the insertion has returned. -/
def User.ofReturned : List Row → Except Failure User
  | [] => .error Store.noUserRow
  | row :: _ => (User.ofRow row).mapError .query

theorem Plan.decodeStored_head? (rows : List Row) :
    decodeStored rows.head? = .stored <$> User.ofReturned rows := by
  cases rows <;> rfl

namespace Request

variable (id : String) (attributes : Row) (key : Key) {store : Store} {script : Script}

theorem result_addUser (h : script.next.fault? store.settings.timeout = none) :
    (execute store (.setUser id attributes none) script).result =
      .stored <$> User.ofReturned script.next.rows.toList := by
  rw [execute_of_plan? store rfl, Plan.execute_of_answer _ h, ← Plan.decodeStored_head?,
    ← Rows.first?_eq]
  rfl

theorem result_addUserWithKey (h : script.next.fault? store.settings.timeout = none) :
    (execute store (.setUser id attributes (some key)) script).result =
      .stored <$> User.ofReturned (script.next.batch.headD []) := by
  -- The user is inserted by the first statement of the batch, so its rows come first.
  have first (rows : List (List Row)) : rows.head?.bind List.head? = (rows.headD []).head? := by
    cases rows <;> rfl
  rw [execute_of_plan? store rfl, Plan.execute_of_answer _ h, ← Plan.decodeStored_head?, ← first]
  rfl

theorem result_addUser_of_fault {fault : Fault}
    (h : script.next.fault? store.settings.timeout = some fault) :
    (execute store (.setUser id attributes none) script).result = .error (.query fault) := by
  have meant : Violation.meaning? store.tables [] fault = none :=
    Option.eq_none_iff_forall_ne_some.2 fun v => Violation.meaning?_nil_ne_some store.tables fault v
  rw [execute_of_plan? store rfl, Plan.result_execute_of_fault _ h]
  simp only [Plan.addUser, meant, Option.elim_none]

theorem meaning?_addUserWithKey_eq_none_iff (tables : Tables) (fault : Fault) :
    Violation.meaning? tables [.duplicateKeyId] fault = none ↔
      ∀ words wrapped, fault = .backend words wrapped → ¬ SaysTaken words tables.key := by
  rw [Option.eq_none_iff_forall_ne_some]
  constructor
  · rintro unexplained words wrapped rfl taken
    exact unexplained .duplicateKeyId
      (Violation.meaning?_own_eq_some_iff.2 ⟨(Violation.idTaken_iff _ _).2 taken, rfl⟩)
  · intro untaken v explained
    cases fault with
    | backend words wrapped =>
      have taken := (Violation.meaning?_own_eq_some_iff.1 explained).1
      exact untaken words wrapped rfl ((Violation.idTaken_iff _ _).1 taken)
    | _ => exact nomatch explained

theorem result_addUserWithKey_of_fault_iff {fault : Fault}
    (h : script.next.fault? store.settings.timeout = some fault) :
    (execute store (.setUser id attributes (some key)) script).result = .error (.query fault) ↔
      ∀ words wrapped, fault = .backend words wrapped → ¬ SaysTaken words store.tables.key := by
  rw [← meaning?_addUserWithKey_eq_none_iff, execute_of_plan? store rfl,
    Plan.result_execute_of_fault _ h]
  simp only [Plan.addUserWithKey]
  cases Violation.meaning? store.tables [.duplicateKeyId] fault with
  | none => simp
  | some v => simp [Violation.failure_ne_query]

/-- Creating a user with a key and creating it without one agree.  The insertion of the user is the
same statement; if it returns the same rows, in a batch with whatever else, the first of them decides
and both ways have the same result; and if both ways meet the same fault, they have the same result
unless the words of the database say that the identifier of the key is taken. -/
theorem setUser_agrees (store : Store) (id : String) (attributes : Row) (key : Key)
    (script script' : Script) :
    let alone := execute store (.setUser id attributes none) script
    let together := execute store (.setUser id attributes (some key)) script'
    (∃ user added, alone.calls = [.get user] ∧ together.calls = [.batch [user, added]]) ∧
    (script.next.fault? store.settings.timeout = none →
      script'.next.fault? store.settings.timeout = none →
      script'.next.batch.headD [] = script.next.rows.toList →
        together.result = alone.result ∧
        alone.result = match script.next.rows.toList with
          | [] => .error (.unexpectedValue "insert returned no user row")
          | row :: _ => .stored <$> (User.ofRow row).mapError .query) ∧
    ∀ fault, script.next.fault? store.settings.timeout = some fault →
      script'.next.fault? store.settings.timeout = some fault →
        alone.result = .error (.query fault) ∧
        (together.result = alone.result ↔
          ∀ words wrapped, fault = .backend words wrapped → ¬ SaysTaken words store.tables.key) := by
  intro alone together
  refine ⟨⟨.written (Store.insertUser store.tables id attributes),
    .written [.insertInto store.tables.key key.toRow], ?_, ?_⟩, ?_, ?_⟩
  · exact calls_execute store (.setUser id attributes none) script
  · exact calls_execute store (.setUser id attributes (some key)) script'
  · intro answered answered' same
    have result := result_addUser id attributes answered
    refine ⟨?_, result.trans ?_⟩
    · rw [result, ← same]
      exact result_addUserWithKey id attributes key answered'
    · cases script.next.rows.toList <;> rfl
  · intro fault failed failed'
    have result := result_addUser_of_fault id attributes failed
    refine ⟨result, ?_⟩
    rw [result]
    exact result_addUserWithKey_of_fault_iff id attributes key failed'

/-- One row comes back, on its own and in a batch, and then an identifier is taken. -/
theorem setUser_agrees_unless_key_taken :
    let store : Store := ⟨.default, .default⟩
    let attributes : Row := .ofList [("name", .text "Ann")]
    let key : Key := ⟨"k1", "u1", true, none, none⟩
    let row := User.newRow "u1" attributes
    let fault : Fault := .backend "UNIQUE constraint failed: auth_key.id" false
    let alone := execute store (.setUser "u1" attributes none)
    let together := execute store (.setUser "u1" attributes (some key))
    (together [⟨⟨0⟩, none, .none, [[row], []]⟩]).result =
        (alone [⟨⟨0⟩, none, .one row, []⟩]).result ∧
      (alone [.failing fault]).result = .error (.query fault) ∧
      (together [.failing fault]).result ≠ .error (.query fault) := by
  intro store attributes key row fault alone together
  have returned := (setUser_agrees store "u1" attributes key [⟨⟨0⟩, none, .one row, []⟩]
    [⟨⟨0⟩, none, .none, [[row], []]⟩]).2.1 rfl rfl rfl
  have failed := (setUser_agrees store "u1" attributes key [.failing fault]
    [.failing fault]).2.2 fault rfl rfl
  refine ⟨returned.1, failed.1, fun same => ?_⟩
  have untaken := failed.2.1 (same.trans failed.1.symm)
  exact untaken _ false rfl ⟨by decide, by decide⟩

end Request

end BoundSql.Account
