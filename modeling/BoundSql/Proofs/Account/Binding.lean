import BoundSql.Proofs.Account.Plan
import BoundSql.Proofs.Statement.Marks

/-!
# What the names of tables bind

The names of the tables of a store reach the text of a statement by two routes.  As the name of a
table a name is quoted, and then it binds nothing whatever it is.  The query that joins a session
with its user also writes the names in front of columns, as they stand, and there the marks of a
name are marks of the statement.  All other statements have as many marks as parameters for all
tables; the query has if and only if the tables are `Joinable`.
-/

namespace BoundSql

/-- The statements that have been handed to the database, in order. -/
def Outcome.statements {ε α : Type} (o : Outcome ε α) : List Statement :=
  o.calls.flatMap Call.statements

namespace Account

open Text

/-- The statements that a request hands to the database. -/
def Request.statements (tables : Tables) (request : Request) : List Statement :=
  (request.plan? tables).elim [] fun plan => plan.call.statements

theorem Request.statements_execute (store : Store) (request : Request) (script : Script) :
    (request.execute store script).statements = request.statements store.tables := by
  unfold Outcome.statements statements
  rw [calls_execute]
  cases request.plan? store.tables with
  | none => rfl
  | some plan => exact List.flatMap_singleton _ _

/-! ## Statements with fixed columns -/

theorem avoids_of_texts_eq_nil {c : Clause} (h : c.texts = []) (chars : List Char) :
    c.Avoids chars := by
  unfold Clause.Avoids
  rw [h]
  exact List.forall_mem_nil _

theorem avoids_all_columns (table : String) :
    (Clause.select table ["*"]).Avoids [Name.accent, '?'] :=
  List.forall_mem_singleton.2 (by decide)

theorem lacks_id : Lacks [Name.accent, '?'] "id".toList := by decide

theorem lacks_userId : Lacks [Name.accent, '?'] "user_id".toList := by decide

theorem avoids_filter {column : String} (h : Lacks [Name.accent, '?'] column.toList) (v : Value) :
    (Clause.filter (.equal column v)).Avoids [Name.accent, '?'] :=
  List.forall_mem_singleton.2 h

theorem avoids_nonPrimaryConditions (id : String) :
    (Clause.filterAll (Store.nonPrimaryConditions id)).Avoids [Name.accent, '?'] := by
  have primary : Lacks [Name.accent, '?'] "primary_key".toList := by decide
  exact List.forall_mem_cons.2 ⟨lacks_id, List.forall_mem_singleton.2 primary⟩

theorem balanced_pair {first second : Clause} (h : first.Avoids [Name.accent, '?'])
    (h' : second.Avoids [Name.accent, '?']) : (Statement.written [first, second]).Balanced :=
  Statement.written_balanced (List.forall_mem_cons.2 ⟨h, List.forall_mem_singleton.2 h'⟩)

/-- A clause that has only quoted names binds its parameters together with the next one. -/
theorem balanced_named {first second : Clause} (h : first.texts = [])
    (h' : second.Avoids [Name.accent, '?']) : (Statement.written [first, second]).Balanced :=
  balanced_pair (avoids_of_texts_eq_nil h _) h'

theorem balanced_insertUser (tables : Tables) (id : String) (attributes : Row) :
    (Statement.written (Store.insertUser tables id attributes)).Balanced :=
  balanced_named rfl (List.forall_mem_singleton.2 (by decide))

theorem balanced_insertInto (table : String) (row : Row) :
    (Statement.written [.insertInto table row]).Balanced :=
  Statement.written_balanced (List.forall_mem_singleton.2 (avoids_of_texts_eq_nil rfl _))

/-! ## The query that joins -/

/-- The names of the tables do not add to the marks of the query that joins: no mark stands outside
accents in either name, and none comes after an accent that a name leaves open. -/
def Tables.Joinable (tables : Tables) : Prop :=
  bindPositions tables.user.toList = [] ∧ bindPositions tables.session.toList = [] ∧
  (Odd (tables.user.toList.count Name.accent) →
    '?' ∉ tables.user.toList ∧ '?' ∉ tables.session.toList) ∧
  (Odd (tables.session.toList.count Name.accent) → '?' ∉ tables.session.toList)

instance (tables : Tables) : Decidable tables.Joinable :=
  inferInstanceAs (Decidable (_ ∧ _ ∧ _ ∧ _))

/-- The marks of the query, where `q` says whether the name of the user table leaves an accent
open. -/
theorem marks_joinSession (tables : Tables) (id : String) :
    let u := tables.user.toList
    let s := tables.session.toList
    let q := inside false u
    marks false (Clause.listText (Store.joinSession tables id)) =
      marks false u + 2 * (marks q s + marks (inside q s) s) + marks q (Name.quoted s) +
        marks q (Name.quoted u) + marks q u + (marks false s + marks (inside false s) s) + 1 := by
  have blank (q : Bool) (t : List Char) : marks q (' ' :: t) = marks q t := by
    have h : Name.accent ≠ ' ' := by decide
    simp [marks, toggle, h.symm]
  have last : marks false ['?'] = 1 := rfl
  -- The text is a sequence of fixed words, names as they stand and quoted names.
  simp only [Store.joinSession, Clause.listText, Clause.tailText, Clause.text, Clause.pieces,
    Condition.pieces, Condition.equal, Piece.text_cons, Piece.text_nil, Piece.chars,
    Piece.joined_cons_cons, Piece.joined_singleton, List.map_cons, List.map_nil,
    String.toList_append, List.append_nil, List.cons_append, List.nil_append, List.append_assoc]
  generalize tables.user.toList = u
  generalize tables.session.toList = s
  -- Each name toggles between the two states, and its next occurrence toggles back.
  simp (disch := decide) only [blank, last, marks_append_of_not_mem, marks_append _ u,
    marks_append _ s, marks_append _ (Name.quoted _), inside_quoted, inside_inside]
  omega

theorem balanced_joinSession_iff (tables : Tables) (id : String) :
    (Statement.written (Store.joinSession tables id)).Balanced ↔ tables.Joinable := by
  have hparams : (Statement.written (Store.joinSession tables id)).params.length = 1 := rfl
  unfold Statement.Balanced Tables.Joinable Statement.bindPositions
  rw [hparams, Statement.written, String.toList_ofList, length_bindPositions, marks_joinSession]
  simp only [bindPositions_eq_nil_iff, odd_count_accent_iff, ← List.count_eq_zero]
  generalize tables.user.toList = u
  generalize tables.session.toList = s
  have hu : marks false u + marks true u = u.count '?' := marks_add_marks_not false u
  have hs : marks false s + marks true s = s.count '?' := marks_add_marks_not false s
  cases iu : inside false u with
  | false =>
    rw [marks_false_quoted, marks_false_quoted]
    cases is : inside false s with
    | false =>
      simp only [Bool.false_eq_true, false_implies, and_true]
      omega
    | true =>
      simp only [Bool.false_eq_true, false_implies, true_implies, true_and]
      omega
  | true =>
    have toggled : inside true s = !inside false s := inside_not false s
    rw [marks_true_quoted, marks_true_quoted, toggled]
    cases is : inside false s with
    | false =>
      simp only [Bool.not_false, Bool.false_eq_true, false_implies, true_implies, and_true]
      omega
    | true =>
      simp only [Bool.not_true, true_implies]
      omega

example : Tables.default.Joinable := by decide

/-! ## All requests -/

theorem Request.balanced_of_ne_join (tables : Tables) {request : Request}
    (hr : ∀ id, request ≠ .getSessionAndUser id) :
    ∀ s ∈ request.statements tables, s.Balanced := by
  have selects {c : Clause} (table : String) (h : c.Avoids [Name.accent, '?']) :
      ∀ s ∈ [Statement.written [.select table ["*"], c]], s.Balanced :=
    List.forall_mem_singleton.2 (balanced_pair (avoids_all_columns table) h)
  have writes {c d : Clause} (hc : c.texts = []) (hd : d.Avoids [Name.accent, '?']) :
      ∀ s ∈ [Statement.written [c, d]], s.Balanced :=
    List.forall_mem_singleton.2 (balanced_named hc hd)
  have inserts (table : String) (row : Row) :
      ∀ s ∈ [Statement.written [.insertInto table row]], s.Balanced :=
    List.forall_mem_singleton.2 (balanced_insertInto table row)
  cases request with
  | getSessionAndUser id => exact absurd rfl (hr id)
  | getUser id => exact selects tables.user (avoids_filter lacks_id _)
  | setUser id attributes key =>
    have user := balanced_insertUser tables id attributes
    cases key with
    | none => exact List.forall_mem_singleton.2 user
    | some key => exact List.forall_mem_cons.2 ⟨user, inserts tables.key key.toRow⟩
  | deleteUser id => exact writes rfl (avoids_filter lacks_id _)
  | updateUserAttributes id attributes =>
    rw [statements, plan?]
    split_ifs with h
    · exact List.forall_mem_nil _
    · exact writes rfl (avoids_filter lacks_id _)
  | getSession id => exact selects tables.session (avoids_filter lacks_id _)
  | getSessionsOfUser userId => exact selects tables.session (avoids_filter lacks_userId _)
  | setSession session => exact inserts tables.session session.toRow
  | deleteSession id => exact writes rfl (avoids_filter lacks_id _)
  | deleteSessionsOfUser userId => exact writes rfl (avoids_filter lacks_userId _)
  | setKey key => exact inserts tables.key key.toRow
  | getKey id => exact selects tables.key (avoids_filter lacks_id _)
  | getKeysOfUser userId => exact selects tables.key (avoids_filter lacks_userId _)
  | updateKeyPassword id password => exact writes rfl (avoids_filter lacks_id _)
  | deleteKeysOfUser userId => exact writes rfl (avoids_filter lacks_userId _)
  | deleteNonPrimaryKey id => exact writes rfl (avoids_nonPrimaryConditions id)

/-- Whatever the database answers, every statement of a request has as many marks outside accents as
parameters, if and only if the request does not join a session with its user or the names of the
tables allow it. -/
theorem Request.statements_balanced_iff (store : Store) (request : Request) (script : Script) :
    (∀ s ∈ (request.execute store script).statements, s.Balanced) ↔
      ((∃ id, request = .getSessionAndUser id) → store.tables.Joinable) := by
  rw [statements_execute]
  by_cases joins : ∃ id, request = .getSessionAndUser id
  · obtain ⟨id, rfl⟩ := joins
    have h := balanced_joinSession_iff store.tables id
    constructor
    · intro balanced _
      exact h.1 (balanced _ List.mem_cons_self)
    · intro joinable
      exact List.forall_mem_singleton.2 (h.2 (joinable ⟨id, rfl⟩))
  · have balanced := balanced_of_ne_join store.tables (not_exists.1 joins)
    exact iff_of_true balanced fun h => absurd h joins

/-- With a question mark in the name of the user table, which is not blank, the query that joins has
more marks than parameters. -/
theorem Request.unbalanced_question_mark_in_user_name :
    (⟨"u?", "s", "k"⟩ : Tables).firstBlank? = none ∧
      ∃ s ∈ (execute ⟨.default, ⟨"u?", "s", "k"⟩⟩ (.getSessionAndUser "x1") []).statements,
        ¬ s.Balanced := by
  refine ⟨by decide, _, ?_, mt (balanced_joinSession_iff ⟨"u?", "s", "k"⟩ "x1").1 (by decide)⟩
  rw [statements_execute]
  exact List.mem_cons_self

end Account

end BoundSql
