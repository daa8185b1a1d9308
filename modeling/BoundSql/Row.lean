import BoundSql.Value

/-!
# Rows

A `Row` assigns values to finitely many columns.  Its columns are distinct and listed in the order
in which they were first written; writing a column again replaces its value where it stands.  The
same type serves for the columns that an INSERT or UPDATE writes and for the records that come back
from the database.
-/

namespace BoundSql

/-- Values of distinct columns, in the order in which the columns were first written. -/
structure Row where
  entries : List (String × Value)
  nodup : (entries.map Prod.fst).Nodup
deriving DecidableEq

namespace Row

/-! ## Entries -/

/-- Writes a column into a list of entries: in place when it is there, else at the end. -/
def put (column : String) (value : Value) : List (String × Value) → List (String × Value)
  | [] => [(column, value)]
  | (k, v) :: es => if k = column then (k, value) :: es else (k, v) :: put column value es

theorem map_fst_put (c : String) (v : Value) (es : List (String × Value)) :
    (put c v es).map Prod.fst =
      if c ∈ es.map Prod.fst then es.map Prod.fst else es.map Prod.fst ++ [c] := by
  induction es with
  | nil => simp [put]
  | cons e es ih =>
    obtain ⟨k, w⟩ := e
    by_cases h : k = c
    · simp [put, h]
    · have h' : c ≠ k := fun e => h e.symm
      simp only [put, h, if_false, List.map_cons, ih, List.mem_cons, h', false_or]
      split <;> simp

theorem nodup_put {es : List (String × Value)} (h : (es.map Prod.fst).Nodup) (c : String)
    (v : Value) : ((put c v es).map Prod.fst).Nodup := by
  rw [map_fst_put]
  split
  · exact h
  · next hc =>
    refine List.nodup_append.2 ⟨h, by simp, ?_⟩
    intro a ha b hb e
    rw [List.mem_singleton.1 hb] at e
    exact hc (e ▸ ha)

/-! ## Operations -/

/-- The row without columns. -/
def empty : Row := ⟨[], List.nodup_nil⟩

instance : Inhabited Row := ⟨empty⟩

/-- The columns, in order. -/
def columns (r : Row) : List String := r.entries.map Prod.fst

/-- The values, in the order of their columns. -/
def values (r : Row) : List Value := r.entries.map Prod.snd

/-- The number of columns. -/
def size (r : Row) : Nat := r.entries.length

/-- Whether there are no columns. -/
def isEmpty (r : Row) : Bool := r.entries.isEmpty

/-- The value of a column. -/
def get? (r : Row) (column : String) : Option Value := r.entries.lookup column

/-- Writes a column. -/
def insert (r : Row) (column : String) (value : Value) : Row :=
  ⟨put column value r.entries, nodup_put r.nodup column value⟩

/-- Writes a column when there is something to write. -/
def insertSome (r : Row) (column : String) : Option Value → Row
  | some value => r.insert column value
  | none => r

/-- Writes columns one after the other. -/
def extend (r : Row) (entries : List (String × Value)) : Row :=
  entries.foldl (fun r e => r.insert e.1 e.2) r

/-- The row that results from writing the given columns one after the other. -/
def ofList (entries : List (String × Value)) : Row := empty.extend entries

/-- The row without a column; the others keep their order. -/
def erase (r : Row) (column : String) : Row where
  entries := r.entries.filter fun e => e.1 ≠ column
  nodup := r.nodup.sublist (List.filter_sublist.map _)

/-- Whether two rows have the same columns with agreeing values, in whatever order. -/
def agrees (r s : Row) : Bool :=
  r.size == s.size && r.entries.all fun e => (s.get? e.1).any e.2.agrees

/-! ## What the operations do to the columns -/

theorem columns_insert (r : Row) (c : String) (v : Value) :
    (r.insert c v).columns = if c ∈ r.columns then r.columns else r.columns ++ [c] :=
  map_fst_put c v r.entries

end Row

end BoundSql
