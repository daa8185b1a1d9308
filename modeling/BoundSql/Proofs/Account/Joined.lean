import BoundSql.Proofs.Account.Plan
import BoundSql.Proofs.Row
import Mathlib.Data.List.Perm.Subperm

/-!
# Sessions beside their users

The query that joins a session with its user answers with one row, in which the columns of the
session stand under aliases among those of the user (`Joined`).  A session is read off its columns
one after the other, whatever they are called (`Session.readUnder_eq`), and without the aliases the
row is that of the user (`Joined.erase_aliases`).  So the query answers what two queries for the
session and for the user would have answered, and where one of these fails the joined one fails for
the same column under its name in the joined row (`Store.getSessionAndUser_of_joined`).
-/

namespace BoundSql

theorem Settings.result_getWith_of_first {α : Type} (settings : Settings)
    (read : Row → Except Fault α) {cs : List Clause} (faultless : ∀ c ∈ cs, c.fault? = none)
    {script : Script} (answered : script.next.fault? settings.timeout = none) {row : Row}
    (first : script.next.rows.first? = some row) :
    (settings.getWith read cs script).result = some <$> read row := by
  unfold getWith
  rw [settings.performClauses_eq script .get faultless]
  simp only [perform, Response.result_eq, answered, Outcome.andThen, Outcome.withResult]
  have answer : (Response.rows <$> (.ok (id script.next) : Except Fault Response)) =
      .ok script.next.rows := rfl
  rw [answer]
  simp only [bind, Except.bind, first]

namespace Account

/-! ## Reading a session -/

namespace Session

/-- The columns of a session in the order in which they are read, with the kinds of their
values. -/
def layout : List (String × Value.Kind) :=
  [("id", .text), ("user_id", .text), ("active_expires", .integer), ("idle_expires", .integer)]

/-- The first column in which a row has no value of the right kind, and why. -/
def fault? (row : Row) : Option (String × ColumnFault) :=
  layout.findSome? fun c => (row.kindFault? c.1 c.2).map fun cause => (c.1, cause)

/-- Reads a session off a row in which its columns have other names. -/
def readUnder (name : String → String) (row : Row) : Except Fault Session := do
  let id ← row.read (name "id")
  let userId ← row.read (name "user_id")
  let activeExpires ← row.read (name "active_expires")
  let idleExpires ← row.read (name "idle_expires")
  return { id, userId, activeExpires, idleExpires }

theorem ofRow_eq_readUnder (row : Row) : ofRow row = readUnder (fun column => column) row := rfl

/-- Wherever the columns of a session stand and whatever they are called, the same session is read
off them, or the same column is at fault. -/
theorem readUnder_eq (s : Row) : ∃ session, ∀ (name : String → String) (row : Row),
    (∀ c ∈ layout, row.get? (name c.1) = s.get? c.1) →
      readUnder name row = match fault? s with
        | some (column, cause) => .error (.column (name column) cause)
        | none => .ok session := by
  refine ⟨⟨((s.get? "id").bind Value.text?).getD "", ((s.get? "user_id").bind Value.text?).getD "",
    ((s.get? "active_expires").bind Value.integer?).getD 0,
    ((s.get? "idle_expires").bind Value.integer?).getD 0⟩, fun name row h => ?_⟩
  simp only [layout, List.forall_mem_cons] at h
  obtain ⟨hid, huser, hactive, hidle, -⟩ := h
  have kinds {c : String} (hc : row.get? (name c) = s.get? c) (kind : Value.Kind) :
      row.kindFault? (name c) kind = s.kindFault? c kind := by
    unfold Row.kindFault?
    rw [hc]
  unfold readUnder fault? layout
  simp only [Row.read_text, Row.read_integer, kinds hid, kinds huser, kinds hactive, kinds hidle,
    hid, huser, hactive, hidle, List.findSome?_cons, List.findSome?_nil]
  -- The columns are looked at in the same order on both sides, up to the first one at fault.
  cases s.kindFault? "id" .text with
  | some cause => rfl
  | none =>
    cases s.kindFault? "user_id" .text with
    | some cause => rfl
    | none =>
      cases s.kindFault? "active_expires" .integer with
      | some cause => rfl
      | none => cases s.kindFault? "idle_expires" .integer <;> rfl

/-- The name of a column of a session beside its user. -/
def aliasOf (column : String) : String := "_session_" ++ column

theorem sessionAliases_eq : Store.sessionAliases = layout.map fun c => aliasOf c.1 := by decide

end Session

theorem User.ofRow_eq (row : Row) :
    ofRow row = match row.kindFault? "id" .text with
      | some cause => .error (.column "id" cause)
      | none => .ok ⟨((row.get? "id").bind Value.text?).getD "", row.erase "id"⟩ := by
  unfold ofRow
  rw [Row.read_text]
  cases row.kindFault? "id" .text <;> rfl

/-! ## Joined rows -/

/-- A row that joins the row of a session with the row of a user: the columns of the user in their
order and, anywhere among them, the columns of the session that there are under their aliases,
which are no columns of the user. -/
structure Joined (session user row : Row) : Prop where
  fresh : ∀ c ∈ Session.layout, Session.aliasOf c.1 ∉ user.columns
  sublist : user.entries.Sublist row.entries
  get? : ∀ c ∈ Session.layout, row.get? (Session.aliasOf c.1) = session.get? c.1
  only : ∀ column ∈ row.columns,
    column ∈ user.columns ∨ ∃ c ∈ Session.layout, column = Session.aliasOf c.1

namespace Joined

variable {session user row : Row}

theorem not_mem_aliases (h : Joined session user row) {column : String}
    (hc : column ∈ user.columns) : column ∉ Store.sessionAliases := by
  rw [Session.sessionAliases_eq, List.mem_map]
  rintro ⟨c, hmem, rfl⟩
  exact h.fresh c hmem hc

theorem mem_user_of_not_mem_aliases (h : Joined session user row) {column : String}
    (hc : column ∈ row.columns) (hne : column ∉ Store.sessionAliases) : column ∈ user.columns := by
  rcases h.only column hc with hu | ⟨c, hmem, rfl⟩
  · exact hu
  · rw [Session.sessionAliases_eq] at hne
    exact absurd (List.mem_map_of_mem hmem) hne

/-- Without the columns of the session the row is that of the user. -/
theorem erase_aliases (h : Joined session user row) :
    Store.sessionAliases.foldl Row.erase row = user := by
  have kept : user.entries.filter (fun e => e.1 ∉ Store.sessionAliases) = user.entries :=
    List.filter_eq_self.2 fun e he =>
      decide_eq_true (h.not_mem_aliases (List.mem_map_of_mem he))
  have sub : user.entries.Sublist (Store.sessionAliases.foldl Row.erase row).entries := by
    rw [Row.entries_foldl_erase, ← kept]
    exact h.sublist.filter _
  -- Distinct columns that are all columns of the user are not more than these.
  have columns : (Store.sessionAliases.foldl Row.erase row).columns ⊆ user.columns := by
    intro column hc
    obtain ⟨e, he, rfl⟩ := List.mem_map.1 hc
    rw [Row.entries_foldl_erase, List.mem_filter, decide_eq_true_iff] at he
    exact h.mem_user_of_not_mem_aliases (List.mem_map_of_mem he.1) he.2
  have length : (Store.sessionAliases.foldl Row.erase row).entries.length ≤ user.entries.length := by
    have hle := (List.subperm_of_subset (Store.sessionAliases.foldl Row.erase row).nodup
      columns).length_le
    rwa [Row.columns, List.length_map, List.length_map] at hle
  exact (Row.eq_of_entries (sub.eq_of_length_le length)).symm

theorem readJoined_eq (h : Joined session user row) :
    Store.readJoined row = (do
      let s ← Session.readUnder Session.aliasOf row
      let u ← User.ofRow user
      return (s, u)) := by
  unfold Store.readJoined
  rw [h.erase_aliases]
  simp only [Session.readUnder, bind_assoc, pure_bind]
  rfl

end Joined

/-! ## The joined query -/

/-- Answered with a row that joins the row `s` of a session with the row `u` of a user, the joined
query gives the session and the user that the two rows hold.  Otherwise it fails for the first
column of the session at fault, under its alias, or for the identifier of the user when no column
of the session is at fault. -/
theorem Store.getSessionAndUser_of_joined (store : Store) (id : String) {script : Script}
    {s u row : Row} (joined : Joined s u row)
    (answered : script.next.fault? store.settings.timeout = none)
    (first : script.next.rows.first? = some row) :
    (∀ session user, (store.getSessionAndUser id script).result = .ok (some (session, user)) ↔
        Session.ofRow s = .ok session ∧ User.ofRow u = .ok user) ∧
      ((∃ session user, (store.getSessionAndUser id script).result = .ok (some (session, user)) ∧
          user.attributes.entries = u.entries.filter fun e => e.1 ≠ "id") ∨
        (∃ column cause, Session.fault? s = some (column, cause) ∧
          Session.ofRow s = .error (.column column cause) ∧
          (store.getSessionAndUser id script).result =
            .error (.query (.column (Session.aliasOf column) cause))) ∨
        (Session.fault? s = none ∧ ∃ cause, User.ofRow u = .error (.column "id" cause) ∧
          (store.getSessionAndUser id script).result =
            .error (.query (.column "id" cause)))) := by
  have result : (store.getSessionAndUser id script).result =
      (some <$> (do
        let session ← Session.readUnder Session.aliasOf row
        let user ← User.ofRow u
        return (session, user)) : Except Fault _).mapError .query := by
    rw [← joined.readJoined_eq, ← store.settings.result_getWith_of_first Store.readJoined
      (Plan.fault?_joinSession store.tables id) answered first]
    rfl
  obtain ⟨session, read⟩ := Session.readUnder_eq s
  rw [result, read Session.aliasOf row joined.get?, Session.ofRow_eq_readUnder,
    read (fun column => column) s fun _ _ => rfl, User.ofRow_eq]
  cases Session.fault? s with
  | some fault =>
    refine ⟨fun session user => ?_, Or.inr (Or.inl ⟨fault.1, fault.2, rfl, rfl, rfl⟩)⟩
    exact iff_of_false nofun fun h => nomatch h.1
  | none =>
    cases u.kindFault? "id" .text with
    | some cause =>
      refine ⟨fun session user => ?_, Or.inr (Or.inr ⟨rfl, cause, rfl, rfl⟩)⟩
      exact iff_of_false nofun fun h => nomatch h.2
    | none =>
      refine ⟨fun session' user => ?_, Or.inl ⟨session, _, rfl, rfl⟩⟩
      simp [Except.mapError, bind, Except.bind, pure, Except.pure]

/-- The columns of a session in another order than they are read, among those of its user. -/
theorem Store.getSessionAndUser_of_joined_interleaved :
    Joined
        (.ofList [("idle_expires", .integer 9), ("id", .text "s1"), ("user_id", .text "u1"),
          ("ip", .null), ("active_expires", .integer 5)])
        (.ofList [("name", .text "ann"), ("id", .text "u1"), ("age", .integer 3)])
        (.ofList [("_session_user_id", .text "u1"), ("name", .text "ann"),
          ("_session_idle_expires", .integer 9), ("id", .text "u1"),
          ("_session_active_expires", .integer 5), ("_session_id", .text "s1"),
          ("age", .integer 3)]) ∧
      (Store.getSessionAndUser ⟨.default, .default⟩ "s1"
          [{ Response.nothing with
            rows := .one (.ofList [("_session_user_id", .text "u1"), ("name", .text "ann"),
              ("_session_idle_expires", .integer 9), ("id", .text "u1"),
              ("_session_active_expires", .integer 5), ("_session_id", .text "s1"),
              ("age", .integer 3)]) }]).result =
        .ok (some (⟨"s1", "u1", 5, 9⟩,
          ⟨"u1", .ofList [("name", .text "ann"), ("age", .integer 3)]⟩)) := by
  have joined : Joined
      (.ofList [("idle_expires", .integer 9), ("id", .text "s1"), ("user_id", .text "u1"),
        ("ip", .null), ("active_expires", .integer 5)])
      (.ofList [("name", .text "ann"), ("id", .text "u1"), ("age", .integer 3)])
      (.ofList [("_session_user_id", .text "u1"), ("name", .text "ann"),
        ("_session_idle_expires", .integer 9), ("id", .text "u1"),
        ("_session_active_expires", .integer 5), ("_session_id", .text "s1"),
        ("age", .integer 3)]) :=
    ⟨by decide, by decide, by decide, by decide⟩
  exact ⟨joined, ((Store.getSessionAndUser_of_joined _ "s1" joined rfl rfl).1 _ _).2 ⟨rfl, rfl⟩⟩

end Account

end BoundSql
