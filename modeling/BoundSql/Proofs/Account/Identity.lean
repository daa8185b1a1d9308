import BoundSql.Proofs.Account.Storage

/-!
# Identifiers of users

The attributes of a user are written in two ways, and an attribute that is called `id` does not fare
alike.  When a user is created it is left out, and `id` is the given identifier
(`Request.insertion?_insertUser`).  When attributes are updated they are written as they are
(`Request.update?_updateWhereId`), so an identifier that is there changes if and only if the
attributes have a column `id` (`Request.updates_id_iff`).
-/

namespace BoundSql.Account

namespace Request

/-! ## One request -/

theorem insertion?_insertUser (tables : Tables) (id : String) (attributes : Row) :
    (Statement.written (Store.insertUser tables id attributes)).insertion? =
      some ⟨tables.user, ("id", .text id) :: attributes.entries.filter fun e => e.1 ≠ "id",
        .ofText " RETURNING *"⟩ := by
  have entries := User.entries_newRow id attributes
  have inserted := Statement.insertion?_written tables.user (Plan.isEmpty_newRow id attributes)
    [.returning ["*"]]
  rw [entries] at inserted
  exact inserted

theorem update?_updateWhereId (table id : String) {row : Row} (h : row.isEmpty = false) :
    (Statement.written (Store.updateWhereId table id row)).update? =
      some ⟨table, row.entries, ⟨" WHERE id = ?", [.text id]⟩⟩ := by
  have condition :
      String.ofList (Clause.tailText [.filter (.equal "id" (.text id))]) = " WHERE id = ?" := by
    cbv
  rw [← condition]
  exact Statement.update?_written table h [.filter (.equal "id" (.text id))]

theorem updates_updateWhereId_iff (table id : String) {row : Row} (h : row.isEmpty = false)
    (column : String) :
    (Statement.written (Store.updateWhereId table id row)).Updates column ↔ column ∈ row.columns :=
  Statement.updates_written_iff h [.filter (.equal "id" (toValue id))] column

theorem statements_updateUserAttributes (tables : Tables) (id : String) (attributes : Row) :
    statements tables (.updateUserAttributes id attributes) =
      if attributes.isEmpty then []
      else [.written (Store.updateWhereId tables.user id attributes)] := by
  rw [statements, plan?]
  split_ifs <;> rfl

theorem not_updates_of_opening {c : Clause}
    (h : c.kind ∈ [.select, .insertInto, .deleteFrom]) (cs : List Clause) (column : String) :
    ¬ (Statement.written (c :: cs)).Updates column := by
  have known : ∀ k ∈ [Clause.Kind.select, .insertInto, .deleteFrom],
      k ∈ Clause.mergedKinds ∧ k ≠ .update := by decide
  exact Statement.not_updates_written (known _ h).1 (known _ h).2 cs column

theorem not_updates_id_of_ne_update (tables : Tables) {request : Request}
    (hr : ∀ id attributes, request ≠ .updateUserAttributes id attributes) :
    ∀ s ∈ request.statements tables, ¬ s.Updates "id" := by
  have selects (table : String) (columns : List String) (cs : List Clause) :
      ∀ s ∈ [Statement.written (.select table columns :: cs)], ¬ s.Updates "id" :=
    List.forall_mem_singleton.2 (not_updates_of_opening (by simp [Clause.kind]) cs "id")
  have inserts (table : String) (row : Row) (cs : List Clause) :
      ∀ s ∈ [Statement.written (.insertInto table row :: cs)], ¬ s.Updates "id" :=
    List.forall_mem_singleton.2 (not_updates_of_opening (by simp [Clause.kind]) cs "id")
  have deletes (table : String) (cs : List Clause) :
      ∀ s ∈ [Statement.written (.deleteFrom table :: cs)], ¬ s.Updates "id" :=
    List.forall_mem_singleton.2 (not_updates_of_opening (by simp [Clause.kind]) cs "id")
  cases request with
  | updateUserAttributes id attributes => exact absurd rfl (hr id attributes)
  | getUser id => exact selects _ _ _
  | setUser id attributes key =>
    cases key with
    | none => exact inserts _ _ _
    | some key => exact List.forall_mem_append.2 ⟨inserts _ _ _, inserts _ _ _⟩
  | getSessionAndUser id => exact selects _ _ _
  | getSession id => exact selects _ _ _
  | getSessionsOfUser userId => exact selects _ _ _
  | setSession session => exact inserts _ _ _
  | setKey key => exact inserts _ _ _
  | getKey id => exact selects _ _ _
  | getKeysOfUser userId => exact selects _ _ _
  | updateKeyPassword id password =>
    -- The only other update writes a single column, which has another name.
    refine List.forall_mem_singleton.2 ?_
    rw [updates_updateWhereId_iff _ _ (Plan.isEmpty_insert _ _ _)]
    exact (by decide : "id" ∉ ["hashed_password"])
  | _ => exact deletes _ _

theorem updates_id_updateUserAttributes_iff (tables : Tables) (id : String) (attributes : Row) :
    (∃ s ∈ statements tables (.updateUserAttributes id attributes), s.Updates "id") ↔
      "id" ∈ attributes.columns := by
  rw [statements_updateUserAttributes]
  split_ifs with h
  · have none : attributes.columns = [] := List.map_eq_nil_iff.2 (List.isEmpty_iff.1 h)
    simp [none]
  · simp [updates_updateWhereId_iff _ _ (Bool.eq_false_iff.2 h)]

/-- A request changes identifiers that are there if and only if it updates attributes of which one
is called `id`. -/
theorem updates_id_iff (tables : Tables) (request : Request) :
    (∃ s ∈ request.statements tables, s.Updates "id") ↔
      ∃ id attributes, request = .updateUserAttributes id attributes ∧
        "id" ∈ attributes.columns := by
  constructor
  · rintro ⟨s, sent, updates⟩
    by_cases hr : ∃ id attributes, request = .updateUserAttributes id attributes
    · obtain ⟨id, attributes, rfl⟩ := hr
      exact ⟨id, attributes, rfl,
        (updates_id_updateUserAttributes_iff tables id attributes).1 ⟨s, sent, updates⟩⟩
    · have other (id : String) (attributes : Row) : request ≠ .updateUserAttributes id attributes :=
        fun e => hr ⟨id, attributes, e⟩
      exact absurd updates (not_updates_id_of_ne_update tables other s sent)
  · rintro ⟨id, attributes, rfl, named⟩
    exact (updates_id_updateUserAttributes_iff tables id attributes).2 named

/-! ## Runs of requests -/

theorem statements_exchange (tables : Tables) (request : Request) :
    (request.exchange tables).calls.flatMap Call.statements = request.statements tables := by
  unfold exchange statements
  cases request.plan? tables with
  | none => rfl
  | some plan => exact List.flatMap_singleton _ _

/-- A run sends the statements of its requests, whatever the database answers. -/
theorem statements_executeAll (store : Store) (requests : List Request) (script : Script) :
    (callsOf (executeAll store requests script)).flatMap Call.statements =
      requests.flatMap (statements store.tables) := by
  rw [executeAll_eq_exchange, Exchange.callsOf_executeAll, List.flatMap_assoc, List.flatMap_map]
  simp only [statements_exchange]

theorem updates_id_executeAll_iff (store : Store) (requests : List Request) (script : Script) :
    (∃ s ∈ (callsOf (executeAll store requests script)).flatMap Call.statements,
      s.Updates "id") ↔
    ∃ id attributes, .updateUserAttributes id attributes ∈ requests ∧
      "id" ∈ attributes.columns := by
  rw [statements_executeAll]
  constructor
  · rintro ⟨s, sent, updates⟩
    obtain ⟨request, asked, mem⟩ := List.mem_flatMap.1 sent
    obtain ⟨id, attributes, rfl, named⟩ :=
      (updates_id_iff store.tables request).1 ⟨s, mem, updates⟩
    exact ⟨id, attributes, asked, named⟩
  · rintro ⟨id, attributes, asked, named⟩
    obtain ⟨s, mem, updates⟩ :=
      (updates_id_updateUserAttributes_iff store.tables id attributes).2 named
    exact ⟨s, List.mem_flatMap.2 ⟨_, asked, mem⟩, updates⟩

/-- A user is inserted with the given identifier as its first column and all attributes but one that
is called `id`; an update writes all attributes, in the row with the given identifier, and one that
is called `id` too.  So in a run of requests an identifier that is there is written if and only if
the attributes of an update have a column `id`. -/
theorem id_written_iff (store : Store) :
    (∀ id attributes key script, ∃ s more,
      (execute store (.setUser id attributes key) script).statements = s :: more ∧
      s.insertion? = some ⟨store.tables.user,
        ("id", .text id) :: attributes.entries.filter fun e => e.1 ≠ "id",
        .ofText " RETURNING *"⟩) ∧
    (∀ id attributes script,
      (execute store (.updateUserAttributes id attributes) script).statements.map
          Statement.update? =
        if attributes.isEmpty then []
        else [some ⟨store.tables.user, attributes.entries, ⟨" WHERE id = ?", [.text id]⟩⟩]) ∧
    ∀ requests script,
      (∃ s ∈ (callsOf (executeAll store requests script)).flatMap Call.statements,
        s.Updates "id") ↔
      ∃ id attributes, .updateUserAttributes id attributes ∈ requests ∧
        "id" ∈ attributes.columns := by
  refine ⟨fun id attributes key script => ?_, fun id attributes script => ?_,
    updates_id_executeAll_iff store⟩
  · obtain ⟨more, sent⟩ := statements_setUser store id attributes key script
    exact ⟨_, more, sent, insertion?_insertUser store.tables id attributes⟩
  · rw [statements_execute, statements_updateUserAttributes]
    split_ifs with h
    · rfl
    · rw [List.map_singleton, update?_updateWhereId _ _ (Bool.eq_false_iff.2 h)]

/-- The user `u1` is given the identifier `u2` by an attribute. -/
theorem id_overwritten_by_attribute :
    let attributes : Row := .ofList [("name", .text "x"), ("id", .text "u2")]
    let requests : List Request := [.updateUserAttributes "u1" attributes]
    ∃ s ∈ (callsOf (executeAll ⟨.default, .default⟩ requests [])).flatMap Call.statements,
      s.update? = some ⟨"auth_user", [("name", .text "x"), ("id", .text "u2")],
        ⟨" WHERE id = ?", [.text "u1"]⟩⟩ := by
  intro attributes requests
  have filled : attributes.isEmpty = false := rfl
  refine ⟨.written (Store.updateWhereId "auth_user" "u1" attributes), ?_,
    update?_updateWhereId "auth_user" "u1" filled⟩
  rw [statements_executeAll, List.flatMap_singleton, statements_updateUserAttributes]
  exact List.mem_singleton_self _

end Request

end BoundSql.Account
