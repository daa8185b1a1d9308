import BoundSql.Proofs.Statement.Assignment
import BoundSql.Proofs.Value.Equality

/-!
# What statements delete

A statement that deletes the rows in which columns equal values has the columns in its text and the
values as its parameters, in the same order.  `Statement.deletion?` reads the conditions off the
statement alone, and what it reads is what the clauses were to compare (`deletion?_written`).  With
the parameters in place the conditions can be evaluated: a row is deleted when all of them are true
of it (`Deletion.removes`), and the others are left (`Deletion.left`).
-/

namespace BoundSql

/-- A deletion of the rows of a table in which columns equal values. -/
structure Deletion where
  table : String
  equalities : List (String × Value)
deriving DecidableEq

namespace Deletion

/-- Whether all conditions are true of a row, in which a column that is absent is null. -/
def removes (d : Deletion) (row : Row) : Bool :=
  d.equalities.all fun e => ((row.get? e.1).getD .null).equals e.2

/-- The rows that are left. -/
def left (d : Deletion) (rows : List Row) : List Row := rows.filter fun row => !d.removes row

/-- Reads conditions up to the end, and pairs their columns with the parameters in order. -/
def readEqualities : List Value → List Char → Option (List (String × Value))
  | [], _ => none
  | v :: params, s => do
    let column := String.ofList (s.takeWhile (· ≠ ' '))
    let s ← (s.dropWhile (· ≠ ' ')).dropPrefix? " = ?".toList
    match s.dropPrefix? " AND ".toList with
    | some s => (readEqualities params s).map ((column, v) :: ·)
    | none => if s = [] ∧ params = [] then some [(column, v)] else none

end Deletion

/-- What a statement deletes, if it is a deletion whose conditions are equalities. -/
def Statement.deletion? (s : Statement) : Option Deletion := do
  let text ← s.sql.toList.dropPrefix? "DELETE FROM ".toList
  let (table, text) ← Name.read? text
  let text ← text.dropPrefix? " WHERE ".toList
  return ⟨table, ← Deletion.readEqualities s.params text⟩

/-! ## Deletions are read as they were written -/

namespace Deletion

open Text

theorem readEqualities_cons {column : String} (h : ' ' ∉ column.toList) (v : Value)
    (params : List Value) (t : List Char) :
    readEqualities (v :: params) (column.toList ++ (" = ?".toList ++ t)) =
      match t.dropPrefix? " AND ".toList with
      | some t => (readEqualities params t).map ((column, v) :: ·)
      | none => if t = [] ∧ params = [] then some [(column, v)] else none := by
  have word : ∀ c ∈ column.toList, decide (c ≠ ' ') = true :=
    fun c hc => decide_eq_true fun e => h (e ▸ hc)
  have ends : (" = ?".toList ++ t).takeWhile (· ≠ ' ') = [] ∧
      (" = ?".toList ++ t).dropWhile (· ≠ ' ') = " = ?".toList ++ t := ⟨rfl, rfl⟩
  simp only [readEqualities, List.takeWhile_append_of_pos word, List.dropWhile_append_of_pos word,
    ends.1, ends.2, List.append_nil, String.ofList_toList, dropPrefix?_append, Option.bind_eq_bind,
    Option.bind_some]

/-- Conditions are read back when no column hides its end. -/
theorem readEqualities_intercalate {es : List (String × Value)} (hes : es ≠ [])
    (h : ∀ e ∈ es, ' ' ∉ e.1.toList) :
    readEqualities (es.map Prod.snd)
        (" AND ".toList.intercalate (es.map fun e => e.1.toList ++ " = ?".toList)) = some es := by
  induction es with
  | nil => exact absurd rfl hes
  | cons e es ih =>
    obtain ⟨first, others⟩ := List.forall_mem_cons.1 h
    cases es with
    | nil =>
      have read := readEqualities_cons first e.2 [] []
      rw [List.append_nil] at read
      simp only [List.map_cons, List.map_nil, List.intercalate_singleton]
      rw [read]
      rfl
    | cons f es =>
      simp only [List.map_cons, List.intercalate_cons_cons, List.append_assoc] at ih ⊢
      rw [readEqualities_cons first, dropPrefix?_append]
      simp only [ih (List.cons_ne_nil f es) others]
      rfl

end Deletion

namespace Statement

open Text

/-- A deletion is read back from its statement: the table and the conditions in order, with the
values that are compared. -/
theorem deletion?_written (table : String) {es : List (String × Value)} (hes : es ≠ [])
    (h : ∀ e ∈ es, ' ' ∉ e.1.toList) :
    (written [.deleteFrom table, .filterAll (es.map fun e => .equal e.1 e.2)]).deletion? =
      some ⟨table, es⟩ := by
  have where_ne (t : List Char) : (" WHERE ".toList ++ t).head? ≠ some Name.accent := by
    simp [Name.accent]
  have conditions : Clause.tailText [.filterAll (es.map fun e => .equal e.1 e.2)] =
      " WHERE ".toList ++
        " AND ".toList.intercalate (es.map fun e => e.1.toList ++ " = ?".toList) := by
    have opening (t : List Char) : " WHERE ".toList ++ t = ' ' :: ("WHERE ".toList ++ t) := rfl
    have equality : ' ' :: (Comparator.equal.sql.toList ++ [' ', '?']) = " = ?".toList := rfl
    rw [Clause.tailText, Clause.tailText, List.append_nil, Clause.text_filterAll, List.map_map,
      opening, ← equality]
    rfl
  have params : (written [.deleteFrom table, .filterAll (es.map fun e => .equal e.1 e.2)]).params =
      es.map Prod.snd := by
    simp [written, Clause.listParams, Clause.params, Condition.equal, Function.comp_def]
  unfold deletion?
  rw [toList_sql_written, Clause.text_deleteFrom, conditions, params]
  simp only [List.append_assoc, dropPrefix?_append, Name.read?_quoted_append table (where_ne _),
    Deletion.readEqualities_intercalate hes h, Option.bind_eq_bind, Option.bind_some]
  rfl

example :
    deletion? ⟨"DELETE FROM `a``b` WHERE c = ? AND d = ?", [.null, .text "c = ? AND d"]⟩ =
      some ⟨"a`b", [("c", .null), ("d", .text "c = ? AND d")]⟩ := by
  cbv

end Statement

end BoundSql
