import BoundSql.Proofs.Account.Arguments
import BoundSql.Proofs.Account.Binding
import BoundSql.Proofs.Account.Requests
import BoundSql.Proofs.Statement.Assignment

/-!
# What is stored is read back

The row that a request stores is read off the statement that it sends, as columns and values.  A
session and a key have fixed columns, and a query finds them in any row that has these columns with
these values (`Session.ofRow_of_subset`, `Key.ofRow_of_subset`).  A user has all columns of its row,
so it is found in the stored row itself (`User.ofRow_newRow`).
-/

namespace BoundSql.Account

/-! ## Records -/

theorem Session.ofRow_of_subset (session : Session) {row : Row}
    (h : session.toRow.entries ⊆ row.entries) : Session.ofRow row = .ok session := by
  have entries : session.toRow.entries =
      [("id", toValue session.id), ("user_id", toValue session.userId),
        ("active_expires", toValue session.activeExpires),
        ("idle_expires", toValue session.idleExpires)] := rfl
  rw [entries] at h
  simp only [List.cons_subset, List.nil_subset, and_true] at h
  obtain ⟨id, userId, activeExpires, idleExpires⟩ := h
  unfold ofRow
  rw [Row.read_of_mem id (recoverable_text.fromValue_toValue _),
    Row.read_of_mem userId (recoverable_text.fromValue_toValue _),
    Row.read_of_mem activeExpires (recoverable_integer.fromValue_toValue _),
    Row.read_of_mem idleExpires (recoverable_integer.fromValue_toValue _)]
  rfl

theorem Key.ofRow_of_subset (key : Key) {row : Row} (h : key.toRow.entries ⊆ row.entries) :
    Key.ofRow row = .ok key := by
  have entries : key.toRow.entries =
      [("id", toValue key.id), ("user_id", toValue key.userId),
        ("primary_key", toValue key.primaryKey), ("hashed_password", toValue key.hashedPassword),
        ("expires", toValue key.expires)] := rfl
  rw [entries] at h
  simp only [List.cons_subset, List.nil_subset, and_true] at h
  obtain ⟨id, userId, primaryKey, hashedPassword, expires⟩ := h
  unfold ofRow
  rw [Row.read_of_mem id (recoverable_text.fromValue_toValue _),
    Row.read_of_mem userId (recoverable_text.fromValue_toValue _),
    Row.read_of_mem primaryKey (recoverable_bool.fromValue_toValue _),
    Row.read_of_mem hashedPassword (recoverable_text.option _),
    Row.read_of_mem expires (recoverable_integer.option _)]
  rfl

theorem User.ofRow_newRow (id : String) (attributes : Row) :
    User.ofRow (newRow id attributes) = .ok ⟨id, attributes.erase "id"⟩ := by
  have stored : ("id", toValue id) ∈ (newRow id attributes).entries := by
    rw [entries_newRow]
    exact List.mem_cons_self
  have others : (newRow id attributes).erase "id" = attributes.erase "id" := by
    refine Row.eq_of_entries ?_
    simp [Row.erase, entries_newRow, List.filter_filter]
  unfold ofRow
  rw [Row.read_of_mem stored (recoverable_text.fromValue_toValue _), others]
  rfl

/-! ## Queries -/

/-- The request answers `a` whenever `row` is the first row that comes back. -/
def Request.Tells (store : Store) (request : Request) (row : Row) (a : Answer) : Prop :=
  ∀ script : Script, script.next.fault? store.settings.timeout = none →
    script.next.rows.first? = some row → (request.execute store script).result = .ok a

theorem Request.tells_of_first {store : Store} {request : Request} {α : Type} {cs : List Clause}
    {read : Row → Except Fault α} {f : Option α → Answer}
    (h : request.plan? store.tables = some (.first cs read f)) {row : Row} {a : α}
    (hr : read row = .ok a) : request.Tells store row (f (some a)) := by
  intro script answered found
  rw [execute_of_plan? store h, Plan.execute_of_answer _ answered]
  simp only [Plan.first, Plan.decodeFirst, found, hr]
  rfl

/-! ## Storing and asking -/

namespace Request

theorem statements_of_effect {store : Store} {request : Request} {c : Clause}
    {expected : List Violation} (h : request.plan? store.tables = some (.effect [c] expected))
    (script : Script) : (request.execute store script).statements = [.written [c]] := by
  rw [statements_execute, statements, h]
  rfl

theorem statements_setUser (store : Store) (id : String) (attributes : Row) (key : Option Key)
    (script : Script) :
    ∃ more, (execute store (.setUser id attributes key) script).statements =
      .written (Store.insertUser store.tables id attributes) :: more := by
  rw [statements_execute]
  cases key with
  | none => exact ⟨[], rfl⟩
  | some key => exact ⟨[.written [.insertInto store.tables.key key.toRow]], rfl⟩

/-- What a request stores is read off the statement that it sends, and it is read back: a session
and a key off every row that has the stored columns with the stored values, in whatever order and
among whatever others, and a user, with its attributes in their order and none of them called `id`,
off the row that was stored. -/
theorem stored_is_read_back (store : Store) :
    (∀ session script, ∃ s, ∃ stored : Row,
      (execute store (.setSession session) script).statements = [s] ∧
      s.insertion? = some ⟨store.tables.session, stored.entries, .ofText ""⟩ ∧
      ∀ id (row : Row), stored.entries ⊆ row.entries →
        Tells store (.getSession id) row (.session (some session))) ∧
    (∀ key script, ∃ s, ∃ stored : Row,
      (execute store (.setKey key) script).statements = [s] ∧
      s.insertion? = some ⟨store.tables.key, stored.entries, .ofText ""⟩ ∧
      ∀ id (row : Row), stored.entries ⊆ row.entries →
        Tells store (.getKey id) row (.key (some key))) ∧
    ∀ id attributes key script, ∃ s more, ∃ stored : Row,
      (execute store (.setUser id attributes key) script).statements = s :: more ∧
      s.insertion? = some ⟨store.tables.user, stored.entries, .ofText " RETURNING *"⟩ ∧
      ∀ asked, Tells store (.getUser asked) stored (.user (some ⟨id, attributes.erase "id"⟩)) := by
  refine ⟨fun session script => ?_, fun key script => ?_, fun id attributes key script => ?_⟩
  · refine ⟨_, session.toRow, statements_of_effect rfl script,
      Statement.insertion?_written _ (Plan.isEmpty_toRow_session session) [], fun id row h => ?_⟩
    exact tells_of_first rfl (session.ofRow_of_subset h)
  · refine ⟨_, key.toRow, statements_of_effect rfl script,
      Statement.insertion?_written _ (Plan.isEmpty_toRow_key key) [], fun id row h => ?_⟩
    exact tells_of_first rfl (key.ofRow_of_subset h)
  · obtain ⟨more, sent⟩ := statements_setUser store id attributes key script
    refine ⟨_, more, User.newRow id attributes, sent,
      Statement.insertion?_written _ (Plan.isEmpty_newRow id attributes) [.returning ["*"]],
      fun asked => ?_⟩
    exact tells_of_first rfl (User.ofRow_newRow id attributes)

/-- A key is read back off a row that has its columns the other way round and one more. -/
theorem stored_is_read_back_reordered :
    let key : Key := ⟨"k`1", "u1", false, none, some (-1)⟩
    let row : Row := .ofList [("expires", .integer (-1)), ("note", .text "id"),
      ("hashed_password", .null), ("primary_key", toValue false), ("user_id", .text "u1"),
      ("id", .text "k`1")]
    (execute ⟨.default, .default⟩ (.getKey "k`1") [⟨⟨0⟩, none, .one row, []⟩]).result =
      .ok (.key (some key)) := by
  intro key row
  obtain ⟨s, stored, sent, inserted, tells⟩ :=
    (stored_is_read_back ⟨.default, .default⟩).2.1 key []
  rw [statements_of_effect rfl, List.singleton_inj] at sent
  rw [← sent, Statement.insertion?_written _ (Plan.isEmpty_toRow_key key)] at inserted
  have entries : key.toRow.entries = stored.entries :=
    (Assignment.mk.inj (Option.some.inj inserted)).2.1
  have found : stored.entries ⊆ row.entries := by
    rw [← entries]
    decide +kernel
  exact tells "k`1" row found _ rfl rfl

end Request

end BoundSql.Account
