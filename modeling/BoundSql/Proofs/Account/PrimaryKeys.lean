import BoundSql.Proofs.Account.Storage
import BoundSql.Proofs.Execution.Queries
import BoundSql.Proofs.Statement.Deletion

/-!
# Primary keys are not deleted

Whether a key is primary is stored as a number, read as a truth value, and compared with false by the
statement that deletes keys.  The three agree on every value: the conditions of the statement are
true of a row when the row reads as a key with the given identifier that is not primary, and of no
other row that reads as a key (`Store.removes_nonPrimaryDeletion_iff`).
-/

namespace BoundSql.Account

/-! ## Keys that are read and keys that are deleted -/

/-- The deletion of the key with an identifier unless it is primary. -/
def Store.nonPrimaryDeletion (table id : String) : Deletion :=
  ⟨table, [("id", toValue id), ("primary_key", toValue false)]⟩

theorem Store.deletion?_nonPrimary (table id : String) :
    (Statement.written [.deleteFrom table, .filterAll (nonPrimaryConditions id)]).deletion? =
      some (nonPrimaryDeletion table id) := by
  have conditions : nonPrimaryConditions id =
      (nonPrimaryDeletion table id).equalities.map fun e => .equal e.1 e.2 := rfl
  rw [conditions]
  exact Statement.deletion?_written table (List.cons_ne_nil _ _) (by simp [nonPrimaryDeletion])

/-- The conditions are true of the rows in which the columns are read as the identifier and as
false. -/
theorem Store.removes_nonPrimaryDeletion_iff_read (table id : String) (row : Row) :
    (nonPrimaryDeletion table id).removes row = true ↔
      row.read "id" = .ok id ∧ row.read "primary_key" = .ok false := by
  rw [Row.read_eq_ok_iff, Row.read_eq_ok_iff]
  simp only [nonPrimaryDeletion, Deletion.removes, List.all_cons, List.all_nil, Bool.and_true,
    Bool.and_eq_true, Value.equals_text_iff, Value.equals_false_iff]
  rfl

theorem Key.read_of_ofRow {row : Row} {key : Key} (h : Key.ofRow row = .ok key) :
    row.read "id" = .ok key.id ∧ row.read "primary_key" = .ok key.primaryKey := by
  unfold ofRow at h
  obtain ⟨id, hid, h⟩ := bind_eq_ok_iff.1 h
  obtain ⟨userId, -, h⟩ := bind_eq_ok_iff.1 h
  obtain ⟨primaryKey, hprimary, h⟩ := bind_eq_ok_iff.1 h
  obtain ⟨hashedPassword, -, h⟩ := bind_eq_ok_iff.1 h
  obtain ⟨expires, -, h⟩ := bind_eq_ok_iff.1 h
  cases h
  exact ⟨hid, hprimary⟩

theorem Store.removes_nonPrimaryDeletion_iff (table id : String) {row : Row} {key : Key}
    (h : Key.ofRow row = .ok key) :
    (nonPrimaryDeletion table id).removes row = true ↔ key.id = id ∧ key.primaryKey = false := by
  obtain ⟨hid, hprimary⟩ := Key.read_of_ofRow h
  rw [removes_nonPrimaryDeletion_iff_read, hid, hprimary, Except.ok.injEq, Except.ok.injEq]

/-- Of rows that all read as keys, those are left that read as other keys or as primary ones. -/
theorem Store.mapM_left_nonPrimaryDeletion (table id : String) {rows : List Row} {keys : List Key}
    (h : rows.mapM Key.ofRow = .ok keys) :
    ((nonPrimaryDeletion table id).left rows).mapM Key.ofRow =
      .ok (keys.filter fun key => ¬ (key.id = id ∧ key.primaryKey = false)) := by
  refine mapM_filter h fun row key hkey => ?_
  rw [Bool.not_eq_true', ← Bool.not_eq_true, removes_nonPrimaryDeletion_iff table id hkey,
    decide_eq_true_iff]

/-- A row is left when its flag is a number but zero. -/
theorem Store.not_removes_nonPrimaryDeletion (table id : String) {row : Row} {flag : Value}
    (h : row.get? "primary_key" = some flag) (primary : flag.toBool = .ok true) :
    (nonPrimaryDeletion table id).removes row = false := by
  rw [Bool.eq_false_iff, ne_eq, removes_nonPrimaryDeletion_iff_read]
  rintro ⟨-, read⟩
  rw [Row.read_eq_ok_iff, h] at read
  exact nomatch primary.symm.trans read

namespace Request

/-- The requests that store a key: on its own, or together with a user. -/
inductive StoresKey (key : Key) : Request → Prop
  | setKey : StoresKey key (.setKey key)
  | setUser (id : String) (attributes : Row) : StoresKey key (.setUser id attributes (some key))

/-- The last statement of such a request inserts the key. -/
theorem StoresKey.insertion {key : Key} {request : Request} (h : StoresKey key request)
    (store : Store) (script : Script) :
    ∃ s, (request.execute store script).statements.getLast? = some s ∧
      s.insertion? = some ⟨store.tables.key, key.toRow.entries, .ofText ""⟩ := by
  have inserted := Statement.insertion?_written store.tables.key (Plan.isEmpty_toRow_key key) []
  refine ⟨.written [.insertInto store.tables.key key.toRow], ?_, inserted⟩
  rw [statements_execute]
  cases h <;> rfl

/-- The deletion of a key that is not primary is read off the one statement that is sent.  Of a row
that reads as a key its conditions are true if and only if the key has the identifier and is not
primary, so of rows that all read as keys exactly these are taken away, and every row that reads as
a primary key is left: whether its flag is an integer or another number, as long as it is not zero,
and when it has what a request has stored for a primary key. -/
theorem deleteNonPrimaryKey_leaves_primary_keys (store : Store) (id : String) (script : Script) :
    ∃ s d, (execute store (.deleteNonPrimaryKey id) script).statements = [s] ∧
      s.deletion? = some d ∧ d.table = store.tables.key ∧
      (∀ row key, Key.ofRow row = .ok key →
        (d.removes row = true ↔ key.id = id ∧ key.primaryKey = false)) ∧
      (∀ rows keys, rows.mapM Key.ofRow = .ok keys →
        (d.left rows).mapM Key.ofRow =
            .ok (keys.filter fun key => ¬ (key.id = id ∧ key.primaryKey = false)) ∧
          ∀ row ∈ rows, ∀ key, Key.ofRow row = .ok key → key.primaryKey = true →
            row ∈ d.left rows) ∧
      (∀ row n, row.get? "primary_key" = some (.integer n) → n ≠ 0 → d.removes row = false) ∧
      (∀ row x, row.get? "primary_key" = some (.real x) → x.isZero = false →
        d.removes row = false) ∧
      ∀ key request, StoresKey key request → ∀ script', ∃ s' stored,
        (execute store request script').statements.getLast? = some s' ∧
        s'.insertion? = some ⟨store.tables.key, stored, .ofText ""⟩ ∧
        ∀ row : Row, stored ⊆ row.entries →
          Key.ofRow row = .ok key ∧
            (d.removes row = true ↔ key.id = id ∧ key.primaryKey = false) := by
  refine ⟨.written [.deleteFrom store.tables.key, .filterAll (Store.nonPrimaryConditions id)],
    Store.nonPrimaryDeletion store.tables.key id, ?_, Store.deletion?_nonPrimary _ id, rfl,
    fun row key h => Store.removes_nonPrimaryDeletion_iff _ id h,
    fun rows keys h => ⟨Store.mapM_left_nonPrimaryDeletion _ id h, ?_⟩, ?_, ?_, ?_⟩
  · rw [statements_execute]
    rfl
  · intro row mem key hkey primary
    refine List.mem_filter.2 ⟨mem, ?_⟩
    rw [Bool.not_eq_true', ← Bool.not_eq_true, Store.removes_nonPrimaryDeletion_iff _ id hkey,
      primary]
    exact fun removed => nomatch removed.2
  · intro row n flag nonzero
    refine Store.not_removes_nonPrimaryDeletion _ id flag ?_
    rw [Value.toBool, bne_iff_ne.2 nonzero]
  · intro row x flag nonzero
    refine Store.not_removes_nonPrimaryDeletion _ id flag ?_
    rw [Value.toBool, nonzero]
    rfl
  · intro key request stores script'
    obtain ⟨s, sent, inserted⟩ := stores.insertion store script'
    refine ⟨s, key.toRow.entries, sent, inserted, fun row stored => ?_⟩
    have read := key.ofRow_of_subset stored
    exact ⟨read, Store.removes_nonPrimaryDeletion_iff _ id read⟩

/-- Of three keys of one name the flags are two, minus zero and what is not a number. -/
theorem deleteNonPrimaryKey_leaves_primary_keys_flags_of_three_kinds :
    let row (flag : Value) : Row := .ofList [("primary_key", flag), ("id", .text "k"),
      ("user_id", .text "u"), ("hashed_password", .null), ("expires", .null)]
    ∃ s d, (execute ⟨.default, .default⟩ (.deleteNonPrimaryKey "k") []).statements = [s] ∧
      s.deletion? = some d ∧
      (d.left [row (.integer 2), row (.real ⟨0x8000000000000000⟩),
          row (.real .nan)]).mapM Key.ofRow =
        .ok [⟨"k", "u", true, none, none⟩, ⟨"k", "u", true, none, none⟩] := by
  intro row
  obtain ⟨s, d, sent, deletes, -, -, left, -⟩ :=
    deleteNonPrimaryKey_leaves_primary_keys ⟨.default, .default⟩ "k" []
  have read : [row (.integer 2), row (.real ⟨0x8000000000000000⟩), row (.real .nan)].mapM Key.ofRow =
      .ok [⟨"k", "u", true, none, none⟩, ⟨"k", "u", false, none, none⟩,
        ⟨"k", "u", true, none, none⟩] := by
    rfl
  exact ⟨s, d, sent, deletes, (left _ _ read).1⟩

end Request

end BoundSql.Account
