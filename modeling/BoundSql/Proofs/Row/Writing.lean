import BoundSql.Proofs.Row
import BoundSql.Statement.Compile

/-!
# Rows, write by write

A row is built by edits, of which each writes columns one after the other into the row that is there
or into a new one.  What counts is the sequence of writes since the row was last replaced as a whole
(`Row.writes`): the columns stand in the order in which they were first written, and each has the
value that was written last (`Row.Holds`).  One write keeps this (`Row.Holds.insert`), so every edit
does (`Row.Holds.apply`) and so does every sequence of edits (`Row.holds_edited`).
-/

namespace BoundSql

namespace Row

/-! ## What a row holds -/

/-- The row holds what was written: every column where it was first written, with its last value. -/
structure Holds (r : Row) (writes : List (String × Value)) : Prop where
  columns : r.columns = (writes.map Prod.fst).eraseDups
  get? : ∀ column, r.get? column = writes.reverse.lookup column

theorem holds_empty : empty.Holds [] := ⟨rfl, fun _ => rfl⟩

/-- A column that was written before keeps its place, and another comes last. -/
theorem eraseDups_concat (columns : List String) (c : String) :
    (columns ++ [c]).eraseDups =
      if c ∈ columns.eraseDups then columns.eraseDups else columns.eraseDups ++ [c] := by
  rw [List.eraseDups_append]
  by_cases h : c ∈ columns
  · rw [if_pos (List.mem_eraseDups.2 h)]
    simp [List.removeAll, h]
  · have single : [c].eraseDups = [c] := rfl
    rw [if_neg (mt List.mem_eraseDups.1 h)]
    simp [List.removeAll, h, single]

theorem Holds.insert {r : Row} {writes : List (String × Value)} (h : r.Holds writes)
    (column : String) (v : Value) : (r.insert column v).Holds (writes ++ [(column, v)]) := by
  constructor
  · rw [columns_insert, h.columns, List.map_append, List.map_singleton, eraseDups_concat]
  · intro other
    rw [get?_insert, h.get?, List.reverse_append, List.reverse_singleton, List.singleton_append,
      lookup_cons_eq_ite]

theorem Holds.extend {r : Row} {writes : List (String × Value)} (h : r.Holds writes)
    (es : List (String × Value)) : (r.extend es).Holds (writes ++ es) := by
  induction es generalizing r writes with
  | nil => rwa [List.append_nil]
  | cons e es ih =>
    have written := ih (h.insert e.1 e.2)
    rwa [List.append_assoc, List.singleton_append] at written

theorem holds_ofList (es : List (String × Value)) : (ofList es).Holds es := holds_empty.extend es

/-- A row holds its own entries as if they had been written in order. -/
theorem holds_entries (r : Row) : r.Holds r.entries := by
  have h := holds_ofList r.entries
  rwa [ofList_entries] at h

/-! ## Edits -/

/-- What can be done to a row that is being built. -/
inductive Edit
  | insert (column : String) (value : Value)
  | insertSome (column : String) (value : Option Value)
  | extend (entries : List (String × Value))
  /-- The row of the given entries takes the place of the whole row. -/
  | collect (entries : List (String × Value))
  /-- A record takes the place of the whole row. -/
  | replace (record : Row)

/-- The row after an edit. -/
def apply (r : Row) : Edit → Row
  | .insert column v => r.insert column v
  | .insertSome column v => r.insertSome column v
  | .extend es => r.extend es
  | .collect es => ofList es
  | .replace record => record

/-- The row that edits make of the empty one. -/
def edited (edits : List Edit) : Row := edits.foldl apply empty

/-- The writes since the row was last replaced, after one more edit. -/
def Edit.log (writes : List (String × Value)) : Edit → List (String × Value)
  | .insert column v => writes ++ [(column, v)]
  | .insertSome column (some v) => writes ++ [(column, v)]
  | .insertSome _ none => writes
  | .extend es => writes ++ es
  | .collect es => es
  | .replace record => record.entries

/-- The writes since the row was last replaced as a whole. -/
def writes (edits : List Edit) : List (String × Value) := edits.foldl Edit.log []

theorem Holds.apply {r : Row} {writes : List (String × Value)} (h : r.Holds writes) (e : Edit) :
    (r.apply e).Holds (e.log writes) := by
  cases e with
  | insert column v => exact h.insert column v
  | insertSome column v =>
    cases v with
    | none => exact h
    | some v => exact h.insert column v
  | extend es => exact h.extend es
  | collect es => exact holds_ofList es
  | replace record => exact record.holds_entries

theorem Holds.foldl_apply {r : Row} {log : List (String × Value)} (h : r.Holds log)
    (edits : List Edit) : (edits.foldl Row.apply r).Holds (edits.foldl Edit.log log) := by
  induction edits generalizing r log with
  | nil => exact h
  | cons e edits ih => exact ih (h.apply e)

theorem holds_edited (edits : List Edit) : (edited edits).Holds (writes edits) :=
  holds_empty.foldl_apply edits

theorem edited_append (edits more : List Edit) :
    edited (edits ++ more) = more.foldl apply (edited edits) :=
  List.foldl_append

/-- Writing entries one by one is extending the row by them. -/
theorem foldl_apply_insert (r : Row) (es : List (String × Value)) :
    (es.map fun e => Edit.insert e.1 e.2).foldl apply r = r.extend es :=
  List.foldl_map

end Row

/-! ## Statements that write a row -/

namespace Statement

theorem ofClauses_singleton (c : Clause) :
    ofClauses [c] = c.compile.mapError .invalidClause := by
  unfold ofClauses
  rw [List.mapM_cons, List.mapM_nil]
  cases c.compile with
  | error cause => rfl
  | ok s =>
    have alone : join [s] = s := by
      simp [join]
    exact congrArg Except.ok alone

theorem ofClauses_insertInto (table : String) {r : Row} (h : r.isEmpty = false) :
    ofClauses [.insertInto table r] =
      .ok ⟨"INSERT INTO " ++ Name.quote table ++
          " (" ++ ",".intercalate (r.columns.map Name.quote) ++
          ") VALUES (" ++ ",".intercalate (r.columns.map fun _ => "?") ++ ")", r.values⟩ := by
  rw [ofClauses_singleton, Clause.compile, Clause.nonempty, h]
  rfl

theorem ofClauses_update (table : String) {r : Row} (h : r.isEmpty = false) :
    ofClauses [.update table r] =
      .ok ⟨"UPDATE " ++ Name.quote table ++ " SET " ++
        ",".intercalate (r.columns.map fun c => Name.quote c ++ " = ?"), r.values⟩ := by
  rw [ofClauses_singleton, Clause.compile, Clause.nonempty, h]
  rfl

end Statement

namespace Row

/-- Whatever edits made it, a row lists each column once, in the order in which the columns were
first written since the row was last replaced, with the value that was written last.  Writing
nothing changes nothing, while writing null writes null; to extend a row or to collect one is to
write entry by entry.  The statements that write the row name these columns, quoted, and bind these
values. -/
theorem edited_lists_first_writes_with_last_values (edits : List Edit) :
    (edited edits).columns.Nodup ∧
      (edited edits).columns = ((writes edits).map Prod.fst).eraseDups ∧
      (∀ c v, (c, v) ∈ (edited edits).entries ↔ (writes edits).reverse.lookup c = some v) ∧
      (∀ c v, (edited edits).get? c = some v ↔ (c, v) ∈ (edited edits).entries) ∧
      (edited edits).size = (edited edits).columns.length ∧
      (∀ c, edited (edits ++ [.insertSome c none]) = edited edits) ∧
      (∀ c, (edited (edits ++ [.insertSome c (some .null)])).get? c = some .null) ∧
      (∀ es, edited (edits ++ [.extend es]) = edited (edits ++ es.map fun e => .insert e.1 e.2)) ∧
      (∀ es, edited (edits ++ [.collect es]) = edited (es.map fun e => .insert e.1 e.2)) ∧
      ∀ table, (edited edits).isEmpty = false →
        Statement.ofClauses [.insertInto table (edited edits)] =
            .ok ⟨"INSERT INTO " ++ Name.quote table ++
                " (" ++ ",".intercalate ((edited edits).columns.map Name.quote) ++
                ") VALUES (" ++ ",".intercalate ((edited edits).columns.map fun _ => "?") ++ ")",
              (edited edits).values⟩ ∧
          Statement.ofClauses [.update table (edited edits)] =
            .ok ⟨"UPDATE " ++ Name.quote table ++ " SET " ++
                ",".intercalate ((edited edits).columns.map fun c => Name.quote c ++ " = ?"),
              (edited edits).values⟩ := by
  have holds := holds_edited edits
  refine ⟨(edited edits).nodup, holds.columns, fun c v => ?_, fun c v => get?_eq_some_iff,
    (List.length_map Prod.fst).symm, fun c => ?_, fun c => ?_, fun es => ?_, fun es => ?_,
    fun table h => ?_⟩
  · rw [← get?_eq_some_iff, holds.get?]
  · rw [edited_append]
    rfl
  · rw [edited_append]
    exact (get?_insert (edited edits) c c .null).trans (if_pos rfl)
  · rw [edited_append, edited_append, foldl_apply_insert]
    rfl
  · rw [edited_append, edited, edited, foldl_apply_insert]
    rfl
  · exact ⟨Statement.ofClauses_insertInto table h, Statement.ofClauses_update table h⟩

/-- A column that is written again stays where it is. -/
theorem edited_lists_first_writes_with_last_values_written_again :
    (edited [.insert "b" (.integer 1), .insert "a" .null, .insert "b" (.integer 3)]).isEmpty =
        false ∧
      Statement.ofClauses [.update "t"
          (edited [.insert "b" (.integer 1), .insert "a" .null, .insert "b" (.integer 3)])] =
        .ok ⟨"UPDATE `t` SET `b` = ?,`a` = ?", [.integer 3, .null]⟩ := by
  have columns : (edited [.insert "b" (.integer 1), .insert "a" .null,
      .insert "b" (.integer 3)]).isEmpty = false := rfl
  obtain ⟨-, -, -, -, -, -, -, -, -, written⟩ := edited_lists_first_writes_with_last_values
    [.insert "b" (.integer 1), .insert "a" .null, .insert "b" (.integer 3)]
  exact ⟨columns, (written "t" columns).2.trans rfl⟩

end Row

end BoundSql
