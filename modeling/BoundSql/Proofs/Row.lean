import BoundSql.Row.Column
import BoundSql.Value.Conversion
import Mathlib.Data.List.Nodup

/-!
# Rows, entry by entry

Columns that are written for the first time stand at the end in the order in which they are written
(`Row.entries_extend`), so writing the entries of a row one after the other gives the row back
(`Row.ofList_entries`).  Erasing columns keeps the entries of the others in their order
(`Row.entries_foldl_erase`).  Whether a column can be read as a text or as an integer is a matter of
the kind of its value (`Row.kindFault?`), and what cannot be read is reported under the name by
which it was asked for (`Row.read_text`, `Row.read_integer`).  At every type an absent column is read
as null (`Row.read_eq_ok_iff`), and a member of a type that was bound to a column is read back from
it, wherever the column stands (`Row.read_of_mem`).  Reading columns one after the other fails only
for a column (`Row.FailsAtColumn`).
-/

namespace BoundSql

/-- Members of a type are read back as they were bound, and none of them is bound as null. -/
structure Recoverable (α : Type) [ToValue α] [FromValue α] : Prop where
  fromValue_toValue : ∀ a : α, (fromValue (toValue a) : Except ColumnFault α) = .ok a
  isNull_toValue : ∀ a : α, (toValue a).isNull = false

theorem recoverable_text : Recoverable String := ⟨fun _ => rfl, fun _ => rfl⟩

theorem recoverable_integer : Recoverable Int64 := ⟨fun _ => rfl, fun _ => rfl⟩

theorem recoverable_bool : Recoverable Bool := by
  refine ⟨fun b => ?_, fun _ => rfl⟩
  cases b <;> rfl

/-- Nothing is bound as null, and so it is read back too. -/
theorem Recoverable.option {α : Type} [ToValue α] [FromValue α] (h : Recoverable α)
    (a : Option α) : (fromValue (toValue a) : Except ColumnFault (Option α)) = .ok a := by
  cases a with
  | none => rfl
  | some a =>
    have bound : (toValue (some a) : Value) = toValue a := rfl
    have read : (fromValue (toValue a) : Except ColumnFault (Option α)) =
        Value.toOption (toValue a) := rfl
    rw [bound, read, Value.toOption, h.isNull_toValue, h.fromValue_toValue]
    rfl

/-- What is read in two steps is read in the first and then in the second. -/
theorem bind_eq_ok_iff {ε α β : Type} {x : Except ε α} {f : α → Except ε β} {b : β} :
    x >>= f = .ok b ↔ ∃ a, x = .ok a ∧ f a = .ok b := by
  cases x <;> simp [bind, Except.bind]

namespace Row

/-- A row is determined by its entries. -/
theorem eq_of_entries {r s : Row} (h : r.entries = s.entries) : r = s := by
  cases r
  cases s
  cases h
  rfl

/-! ## Writing -/

theorem put_of_not_mem {column : String} {es : List (String × Value)}
    (h : column ∉ es.map Prod.fst) (v : Value) : put column v es = es ++ [(column, v)] := by
  induction es with
  | nil => rfl
  | cons e es ih =>
    rw [List.map_cons, List.mem_cons, not_or] at h
    unfold put
    rw [if_neg (Ne.symm h.1), ih h.2, List.cons_append]

theorem lookup_cons_eq_ite (column : String) (e : String × Value) (es : List (String × Value)) :
    (e :: es).lookup column = if column = e.1 then some e.2 else es.lookup column := by
  rw [List.lookup_cons]
  by_cases h : column = e.1
  · rw [if_pos h, beq_iff_eq.2 h]
  · rw [if_neg h, beq_false_of_ne h]

theorem lookup_put (column written : String) (v : Value) (es : List (String × Value)) :
    (put written v es).lookup column = if column = written then some v else es.lookup column := by
  induction es with
  | nil => exact lookup_cons_eq_ite column (written, v) []
  | cons e es ih =>
    unfold put
    by_cases hk : e.1 = written
    · rw [if_pos hk, lookup_cons_eq_ite, lookup_cons_eq_ite, hk]
      by_cases h : column = written <;> simp only [h, if_true, if_false]
    · rw [if_neg hk, lookup_cons_eq_ite, lookup_cons_eq_ite, ih]
      by_cases h : column = written
      · rw [if_pos h, if_pos h, if_neg fun e => hk (e.symm.trans h)]
      · rw [if_neg h, if_neg h]

/-- Writing a column changes the value of no other. -/
theorem get?_insert (r : Row) (column written : String) (v : Value) :
    (r.insert written v).get? column = if column = written then some v else r.get? column :=
  lookup_put column written v r.entries

theorem entries_extend {r : Row} {es : List (String × Value)}
    (h : ((r.entries ++ es).map Prod.fst).Nodup) : (r.extend es).entries = r.entries ++ es := by
  induction es generalizing r with
  | nil => exact (List.append_nil _).symm
  | cons e es ih =>
    have fresh : e.1 ∉ r.entries.map Prod.fst := by
      rw [List.map_append, List.map_cons] at h
      exact fun he => List.disjoint_of_nodup_append h he List.mem_cons_self
    have written : (r.insert e.1 e.2).entries = r.entries ++ [e] := put_of_not_mem fresh e.2
    have rest : (r.insert e.1 e.2).entries ++ es = r.entries ++ e :: es := by
      rw [written, List.append_assoc, List.singleton_append]
    have step : r.extend (e :: es) = (r.insert e.1 e.2).extend es := rfl
    rw [step, ih (rest ▸ h), rest]

theorem ofList_entries (r : Row) : ofList r.entries = r :=
  eq_of_entries (entries_extend r.nodup)

/-! ## Erasing -/

theorem entries_foldl_erase (columns : List String) (r : Row) :
    (columns.foldl erase r).entries = r.entries.filter fun e => e.1 ∉ columns := by
  induction columns generalizing r with
  | nil => simp
  | cons c columns ih =>
    rw [List.foldl_cons, ih, erase, List.filter_filter]
    refine List.filter_congr fun e _ => ?_
    simp [Bool.and_comm]

/-! ## Reading -/

/-- Why the row has no value of a kind in a column, if it has none. -/
def kindFault? (r : Row) (column : String) (kind : Value.Kind) : Option ColumnFault :=
  match r.get? column with
  | none => some .notFound
  | some v => if v.kind = kind then none else some (.expected kind v.kind)

theorem read_text (r : Row) (column : String) :
    (r.read column : Except Fault String) = match r.kindFault? column .text with
      | some cause => .error (.column column cause)
      | none => .ok (((r.get? column).bind Value.text?).getD "") := by
  unfold read kindFault?
  cases r.get? column with
  | none => rfl
  | some v => cases v <;> rfl

theorem read_integer (r : Row) (column : String) :
    (r.read column : Except Fault Int64) = match r.kindFault? column .integer with
      | some cause => .error (.column column cause)
      | none => .ok (((r.get? column).bind Value.integer?).getD 0) := by
  unfold read kindFault?
  cases r.get? column with
  | none => rfl
  | some v => cases v <;> rfl

theorem get?_of_mem {r : Row} {column : String} {v : Value} (h : (column, v) ∈ r.entries) :
    r.get? column = some v := by
  obtain ⟨es, nodup⟩ := r
  unfold get?
  induction es with
  | nil => exact absurd h List.not_mem_nil
  | cons e es ih =>
    rw [List.map_cons, List.nodup_cons] at nodup
    rcases List.mem_cons.1 h with rfl | later
    · exact List.lookup_cons_self
    · have other : column ≠ e.1 := by
        rintro rfl
        exact nodup.1 (List.mem_map.2 ⟨_, later, rfl⟩)
      rw [lookup_cons_eq_ite, if_neg other]
      exact ih nodup.2 later

theorem get?_eq_some_iff {r : Row} {column : String} {v : Value} :
    r.get? column = some v ↔ (column, v) ∈ r.entries := by
  constructor
  · intro h
    obtain ⟨before, after, split, -⟩ := List.lookup_eq_some_iff.1 h
    rw [split]
    exact List.mem_append_right _ List.mem_cons_self
  · exact get?_of_mem

/-- A column is read off its value, which is null when the column is absent. -/
theorem read_eq_ok_iff {α : Type} [FromValue α] {r : Row} {column : String} {a : α} :
    r.read column = .ok a ↔ fromValue ((r.get? column).getD .null) = .ok a := by
  have recovered (x : Except ColumnFault α) (f : ColumnFault → Fault) :
      x.mapError f = .ok a ↔ x = .ok a := by
    cases x <;> simp [Except.mapError]
  unfold read
  cases r.get? column with
  | none => exact recovered _ _
  | some v => exact recovered _ _

/-- A column that holds what reads as `a` is read as `a`. -/
theorem read_of_mem {α : Type} [FromValue α] {r : Row} {column : String} {v : Value} {a : α}
    (h : (column, v) ∈ r.entries) (hv : fromValue v = .ok a) : r.read column = .ok a := by
  rw [read_eq_ok_iff, get?_of_mem h]
  exact hv

/-! ## Failing to read -/

section FailsAtColumn

variable {α β : Type}

/-- Whatever the fault is, it is that of a column. -/
def FailsAtColumn (x : Except Fault α) : Prop :=
  ∀ fault, x = .error fault → ∃ column cause, fault = .column column cause

theorem failsAtColumn_ok (a : α) : FailsAtColumn (.ok a) := fun _ h => nomatch h

theorem FailsAtColumn.bind {x : Except Fault α} {f : α → Except Fault β} (hx : FailsAtColumn x)
    (hf : ∀ a, FailsAtColumn (f a)) : FailsAtColumn (x >>= f) := by
  cases x with
  | error fault =>
    intro fault' h
    cases h
    exact hx fault rfl
  | ok a => exact hf a

theorem failsAtColumn_mapM {read : α → Except Fault β} (h : ∀ a, FailsAtColumn (read a))
    (as : List α) : FailsAtColumn (as.mapM read) := by
  induction as with
  | nil => exact failsAtColumn_ok []
  | cons a as ih =>
    rw [List.mapM_cons]
    exact (h a).bind fun b => ih.bind fun bs => failsAtColumn_ok (b :: bs)

theorem exists_cause_of_mapError_eq_error {x : Except ColumnFault α} {column : String}
    {f : ColumnFault → ColumnFault} {fault : Fault}
    (h : x.mapError (fun cause => Fault.column column (f cause)) = .error fault) :
    ∃ cause, fault = .column column cause := by
  cases x with
  | ok a => exact nomatch h
  | error cause =>
    cases h
    exact ⟨f cause, rfl⟩

/-- Whatever goes wrong is reported of the column that was asked for. -/
theorem exists_cause_of_read_eq_error [FromValue α] {r : Row} {column : String} {fault : Fault}
    (h : (r.read column : Except Fault α) = .error fault) : ∃ cause, fault = .column column cause := by
  unfold read at h
  cases hv : r.get? column with
  | none =>
    rw [hv] at h
    exact exists_cause_of_mapError_eq_error (f := fun _ => .notFound) h
  | some v =>
    rw [hv] at h
    exact exists_cause_of_mapError_eq_error (f := id) h

theorem failsAtColumn_read [FromValue α] (r : Row) (column : String) :
    FailsAtColumn (r.read column : Except Fault α) :=
  fun _ h => ⟨column, exists_cause_of_read_eq_error h⟩

end FailsAtColumn

end Row

end BoundSql
