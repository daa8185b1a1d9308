import BoundSql.Proofs.Statement.Pieces

/-!
# What clauses write

`Clause.compile` either refuses a clause or gives its text and its parameters.  `Clause.fault?` says
why a clause is refused, and without a fault a clause is `Clause.written` (`compile_eq`).  Compiling
a list of clauses is the search for the first fault (`ofClauses_eq`), and a list without a fault is
the statement `Statement.written`, whose text is `Clause.listText`.
-/

namespace BoundSql

namespace Clause

open Piece

/-- Why a clause is refused, if it is. -/
def fault? : Clause → Option ClauseFault
  | .select _ columns => if columns.isEmpty then some (.noColumns .select) else none
  | .insertInto _ row => if row.isEmpty then some (.noColumnValues .insertInto) else none
  | .update _ row => if row.isEmpty then some (.noColumnValues .update) else none
  | .filterAll conditions => if conditions.isEmpty then some .noConditions else none
  | .returning columns => if columns.isEmpty then some (.noColumns .returning) else none
  | .unknown => some .unknownKind
  | .deleteFrom _ => none
  | .innerJoin .. => none
  | .filter _ => none

/-- The statement that a clause is on its own. -/
def written (c : Clause) : Statement := ⟨.ofList c.text, c.params⟩

/-! ## Compiling one clause -/

theorem ok_eq_written {c : Clause} {s : Statement} (hp : s.params = c.params)
    (hs : s.sql.toList = c.text) : (.ok s : Except ClauseFault Statement) = .ok c.written := by
  rw [written, ← hs, ← hp, String.ofList_toList]

theorem toList_condition_sql (c : Condition) : c.sql.toList = Piece.text c.pieces := by
  have mark : " ?".toList = " ".toList ++ ['?'] := rfl
  simp only [Condition.sql, Condition.pieces, text_cons, text_nil, chars, String.toList_append,
    mark, List.append_assoc, List.append_nil]

/-- The text of strings joined by a separator is the text of groups joined by it that stand for
the strings. -/
theorem toList_intercalate_map {α : Type} (sep : String) (xs : List α) {f : α → String}
    {g : α → List Piece} (h : ∀ x ∈ xs, (f x).toList = Piece.text (g x)) :
    (sep.intercalate (xs.map f)).toList = Piece.text (joined sep (xs.map g)) := by
  rw [String.toList_intercalate, text_joined, List.map_map, List.map_map]
  exact congrArg _ (List.map_congr_left h)

theorem toList_commas (columns : List String) :
    (",".intercalate columns).toList =
      Piece.text (joined "," (columns.map fun c => [verbatim c])) := by
  have h := toList_intercalate_map "," columns (f := id) (g := fun c => [verbatim c])
    fun c _ => by simp only [id, text_cons, text_nil, chars, List.append_nil]
  rwa [List.map_id] at h

theorem toList_commas_quote (columns : List String) :
    (",".intercalate (columns.map Name.quote)).toList =
      Piece.text (joined "," (columns.map fun c => [name c])) :=
  toList_intercalate_map "," columns fun c _ => by
    simp only [Name.toList_quote, text_cons, text_nil, chars, List.append_nil]

theorem toList_commas_mark (columns : List String) :
    (",".intercalate (columns.map fun _ => "?")).toList =
      Piece.text (joined "," (columns.map fun _ => [mark])) :=
  toList_intercalate_map "," columns fun _ _ => rfl

theorem toList_commas_setting (columns : List String) :
    (",".intercalate (columns.map fun c => Name.quote c ++ " = ?")).toList =
      Piece.text (joined "," (columns.map fun c => [name c, word " = ", mark])) :=
  toList_intercalate_map "," columns fun c _ => by
    have h : " = ?".toList = " = ".toList ++ ['?'] := rfl
    simp only [Name.toList_quote, String.toList_append, text_cons, text_nil, chars, h,
      List.append_nil]

theorem toList_conditions (conditions : List Condition) :
    (" AND ".intercalate (conditions.map Condition.sql)).toList =
      Piece.text (joined " AND " (conditions.map Condition.pieces)) :=
  toList_intercalate_map " AND " conditions fun c _ => toList_condition_sql c

/-- A clause is refused for its fault, and without a fault it is what it writes. -/
theorem compile_eq (c : Clause) :
    c.compile = match c.fault? with
      | some fault => .error fault
      | none => .ok c.written := by
  cases c with
  | select table columns =>
    simp only [compile, targets, fault?, bind, Except.bind, pure, Except.pure]
    cases columns.isEmpty with
    | true => rfl
    | false =>
      apply ok_eq_written rfl
      simp only [Statement.ofText, text, pieces, text_cons, text_append, text_nil, chars,
        toList_commas, Name.toList_quote, String.toList_append, List.append_assoc,
        List.append_nil]
  | insertInto table row =>
    simp only [compile, nonempty, fault?, bind, Except.bind, pure, Except.pure]
    cases row.isEmpty with
    | true => rfl
    | false =>
      apply ok_eq_written rfl
      simp only [text, pieces, text_cons, text_append, text_nil, chars, toList_commas_quote,
        toList_commas_mark, Name.toList_quote, String.toList_append, List.append_assoc,
        List.append_nil]
  | update table row =>
    simp only [compile, nonempty, fault?, bind, Except.bind, pure, Except.pure]
    cases row.isEmpty with
    | true => rfl
    | false =>
      apply ok_eq_written rfl
      simp only [text, pieces, text_cons, chars, toList_commas_setting, Name.toList_quote,
        String.toList_append, List.append_assoc]
  | deleteFrom table =>
    apply ok_eq_written rfl
    simp only [Statement.ofText, text, pieces, text_cons, text_nil, chars, Name.toList_quote,
      String.toList_append, List.append_nil]
  | innerJoin table tableColumn column =>
    apply ok_eq_written rfl
    simp only [Statement.ofText, text, pieces, text_cons, text_nil, chars, Name.toList_quote,
      String.toList_append, List.append_assoc, List.append_nil]
  | filter c =>
    apply ok_eq_written rfl
    simp only [text, pieces, text_cons, chars, toList_condition_sql, String.toList_append]
  | filterAll conditions =>
    simp only [compile, fault?, pure, Except.pure]
    cases conditions.isEmpty with
    | true => rfl
    | false =>
      apply ok_eq_written rfl
      simp only [text, pieces, text_cons, chars, toList_conditions, String.toList_append]
  | returning columns =>
    simp only [compile, targets, fault?, bind, Except.bind, pure, Except.pure]
    cases columns.isEmpty with
    | true => rfl
    | false =>
      apply ok_eq_written rfl
      simp only [Statement.ofText, text, pieces, text_cons, chars, toList_commas,
        String.toList_append]
  | unknown => rfl

/-! ## Lists of clauses -/

/-- The text of a list of clauses after what comes before it: a blank before each clause. -/
def tailText : List Clause → List Char
  | [] => []
  | c :: cs => ' ' :: (c.text ++ tailText cs)

/-- The text of a list of clauses: their texts with blanks between them. -/
def listText : List Clause → List Char
  | [] => []
  | c :: cs => c.text ++ tailText cs

/-- The values that a list of clauses binds. -/
def listParams (cs : List Clause) : List Value := cs.flatMap params

/-- The first fault in a list of clauses. -/
def listFault? (cs : List Clause) : Option ClauseFault := cs.findSome? fault?

theorem tailText_append (cs ds : List Clause) :
    tailText (cs ++ ds) = tailText cs ++ tailText ds := by
  induction cs with
  | nil => rfl
  | cons c cs ih => simp only [List.cons_append, tailText, ih, List.append_assoc]

theorem listText_append {cs : List Clause} (h : cs ≠ []) (ds : List Clause) :
    listText (cs ++ ds) = listText cs ++ tailText ds := by
  cases cs with
  | nil => exact absurd rfl h
  | cons c cs => simp only [List.cons_append, listText, tailText_append, List.append_assoc]

theorem intercalate_text (cs : List Clause) : [' '].intercalate (cs.map text) = listText cs := by
  induction cs with
  | nil => rfl
  | cons c cs ih =>
    cases cs with
    | nil => simp [listText, tailText]
    | cons d ds =>
      rw [List.map_cons, List.map_cons, List.intercalate_cons_cons, ← List.map_cons, ih]
      simp [listText, tailText]

theorem mapM_compile (cs : List Clause) :
    cs.mapM compile = match listFault? cs with
      | some fault => .error fault
      | none => .ok (cs.map written) := by
  induction cs with
  | nil => rfl
  | cons c cs ih =>
    rw [List.mapM_cons, compile_eq, ih]
    cases hc : c.fault? with
    | some fault => simp [listFault?, hc, bind, Except.bind]
    | none =>
      have h : listFault? (c :: cs) = listFault? cs := by simp [listFault?, hc]
      rw [h]
      cases listFault? cs <;> rfl

end Clause

namespace Statement

/-- The statement that a list of clauses writes. -/
def written (cs : List Clause) : Statement := ⟨.ofList (Clause.listText cs), Clause.listParams cs⟩

theorem join_map_written (cs : List Clause) : join (cs.map Clause.written) = written cs := by
  have blank : " ".toList = [' '] := rfl
  have hsql : (" ".intercalate ((cs.map Clause.written).map sql)).toList = Clause.listText cs := by
    rw [String.toList_intercalate, ← Clause.intercalate_text, blank, List.map_map, List.map_map]
    exact congrArg _ (List.map_congr_left fun c _ => String.toList_ofList)
  have hparams : (cs.map Clause.written).flatMap params = Clause.listParams cs := by
    rw [List.flatMap_map]
    rfl
  unfold join written
  rw [← hsql, hparams, String.ofList_toList]

theorem written_singleton (c : Clause) : written [c] = c.written := by
  simp [written, Clause.written, Clause.listText, Clause.tailText, Clause.listParams]

/-- A list of clauses is refused for its first fault, and without a fault it is the statement that
it writes. -/
theorem ofClauses_eq (cs : List Clause) :
    ofClauses cs = match Clause.listFault? cs with
      | some fault => .error (.invalidClause fault)
      | none => .ok (written cs) := by
  unfold ofClauses
  rw [Clause.mapM_compile]
  cases Clause.listFault? cs with
  | some fault => rfl
  | none => exact congrArg Except.ok (join_map_written cs)

theorem ofClauses_eq_ok_iff {cs : List Clause} {s : Statement} :
    ofClauses cs = .ok s ↔ (∀ c ∈ cs, c.fault? = none) ∧ s = written cs := by
  have h : Clause.listFault? cs = none ↔ ∀ c ∈ cs, c.fault? = none := List.findSome?_eq_none_iff
  rw [ofClauses_eq, ← h]
  cases Clause.listFault? cs with
  | some fault => simp
  | none => simp [eq_comm]

end Statement

end BoundSql
