import BoundSql.Proofs.Row

/-!
# Columns of five types

A column can be required at five types (`ColumnType`): integers of 64 and of 32 bits, numbers, truth
values and texts.  None of them has a member that null could be read as, so an optional column is
nothing exactly where a required one is absent or null, and elsewhere both read the same
(`Row.read_optional`).  An integer is read at 32 bits exactly when they hold it
(`Value.fromValue_integer32_iff`).  What a member of one of the types was bound as is read back at the
type, and whatever goes wrong is reported of the column that was asked for
(`Row.read_required_and_optional`).
-/

namespace BoundSql

/-! ## The types -/

/-- A type at which a column can be required. -/
inductive ColumnType
  | integer
  | integer32
  | real
  | bool
  | text
deriving DecidableEq

namespace ColumnType

/-- What a column is read as. -/
def Member : ColumnType → Type
  | integer => Int64
  | integer32 => Int32
  | real => Binary64
  | bool => Bool
  | text => String

instance : (T : ColumnType) → ToValue T.Member
  | integer => inferInstanceAs (ToValue Int64)
  | integer32 => inferInstanceAs (ToValue Int32)
  | real => inferInstanceAs (ToValue Binary64)
  | bool => inferInstanceAs (ToValue Bool)
  | text => inferInstanceAs (ToValue String)

instance : (T : ColumnType) → FromValue T.Member
  | integer => inferInstanceAs (FromValue Int64)
  | integer32 => inferInstanceAs (FromValue Int32)
  | real => inferInstanceAs (FromValue Binary64)
  | bool => inferInstanceAs (FromValue Bool)
  | text => inferInstanceAs (FromValue String)

/-- Null is read at none of the types. -/
theorem exists_fromValue_null_eq_error (T : ColumnType) :
    ∃ cause, (fromValue Value.null : Except ColumnFault T.Member) = .error cause := by
  cases T <;> exact ⟨_, rfl⟩

end ColumnType

/-! ## Integers of 32 bits -/

/-- Whether 32 bits with sign hold an integer. -/
def FitsInteger32 (n : Int) : Prop := -2147483648 ≤ n ∧ n ≤ 2147483647

theorem fitsInteger32_toInt (m : Int32) : FitsInteger32 m.toInt :=
  ⟨m.le_toInt, Int.le_of_lt_add_one m.toInt_lt⟩

theorem toInt_ofInt_of_fitsInteger32 {n : Int} (h : FitsInteger32 n) : (Int32.ofInt n).toInt = n :=
  Int32.toInt_ofInt_of_le h.1 (Int.lt_add_one_of_le h.2)

namespace Value

theorem fromValue_integer32 (n : Int64) :
    (FitsInteger32 n.toInt →
        (fromValue (.integer n) : Except ColumnFault Int32) = .ok (.ofInt n.toInt)) ∧
      (¬ FitsInteger32 n.toInt →
        (fromValue (.integer n) : Except ColumnFault Int32) = .error (.outOfRange n)) := by
  have read : (fromValue (.integer n) : Except ColumnFault Int32) =
      if -2147483648 ≤ n.toInt ∧ n.toInt ≤ 2147483647 then .ok (.ofInt n.toInt)
      else .error (.outOfRange n) := rfl
  rw [read]
  exact ⟨fun h => if_pos h, fun h => if_neg h⟩

/-- An integer is read at 32 bits as the member of the same value, if there is one. -/
theorem fromValue_integer32_iff {n : Int64} {m : Int32} :
    (fromValue (.integer n) : Except ColumnFault Int32) = .ok m ↔ m.toInt = n.toInt := by
  obtain ⟨inside, outside⟩ := fromValue_integer32 n
  by_cases fits : FitsInteger32 n.toInt
  · rw [inside fits, Except.ok.injEq]
    constructor
    · rintro rfl
      exact toInt_ofInt_of_fitsInteger32 fits
    · intro same
      rw [← same, Int32.ofInt_toInt]
  · rw [outside fits]
    constructor
    · intro h
      exact nomatch h
    · intro same
      exact absurd (same ▸ fitsInteger32_toInt m) fits

end Value

/-! ## Reading back -/

theorem recoverable_integer32 : Recoverable Int32 := by
  refine ⟨fun m => ?_, fun _ => rfl⟩
  have bound : (toValue m : Value) = .integer m.toInt64 := rfl
  rw [bound, Value.fromValue_integer32_iff, Int32.toInt_toInt64]

theorem recoverable_real : Recoverable Binary64 := ⟨fun _ => rfl, fun _ => rfl⟩

theorem ColumnType.recoverable : (T : ColumnType) → Recoverable T.Member
  | integer => recoverable_integer
  | integer32 => recoverable_integer32
  | real => recoverable_real
  | bool => recoverable_bool
  | text => recoverable_text

namespace Row

/-- The column is absent, or its value is null. -/
def HasNothing (r : Row) (column : String) : Prop :=
  r.get? column = none ∨ r.get? column = some .null

section Reading

variable {α : Type} [FromValue α] {r : Row} {column : String}

theorem read_of_get?_eq_some {v : Value} (h : r.get? column = some v) :
    (r.read column : Except Fault α) = v.readAs α column := by
  unfold read
  rw [h]

theorem read_of_get?_eq_none {cause : ColumnFault}
    (refused : (fromValue Value.null : Except ColumnFault α) = .error cause)
    (h : r.get? column = none) : (r.read column : Except Fault α) = .error (.column column .notFound) := by
  unfold read
  rw [h, refused]
  rfl

/-- An optional column is nothing where there is nothing, and elsewhere it is read as a required
one. -/
theorem read_optional (r : Row) (column : String) :
    (r.HasNothing column → (r.read column : Except Fault (Option α)) = .ok none) ∧
      (¬ r.HasNothing column → (r.read column : Except Fault (Option α)) =
        (r.read column : Except Fault α).map some) := by
  constructor
  · rintro (absent | null)
    · unfold read
      rw [absent]
      rfl
    · rw [read_of_get?_eq_some null]
      rfl
  · intro something
    obtain ⟨v, hv⟩ : ∃ v, r.get? column = some v := by
      cases h : r.get? column with
      | none => exact absurd (Or.inl h) something
      | some v => exact ⟨v, rfl⟩
    have notNull : v.isNull = false := by
      cases v with
      | null => exact absurd (Or.inr hv) something
      | _ => rfl
    have inside : (fromValue v : Except ColumnFault (Option α)) = (fromValue v).map some :=
      if_neg (by simp [notNull])
    rw [read_of_get?_eq_some hv, read_of_get?_eq_some hv, Value.readAs, Value.readAs, inside]
    cases (fromValue v : Except ColumnFault α) <;> rfl

end Reading

/-- An optional column is nothing exactly where the column is absent or null, and else what a required
column is; a required column that is absent is not found, and one that is present is read off its
value.  Every fault is that of the column.  An integer is read at 32 bits if they hold it, as the same
number, and only then.  What has been bound is read back, required or optional. -/
theorem read_required_and_optional (r : Row) (column : String) (T : ColumnType) :
    ((r.read column : Except Fault (Option T.Member)) = .ok none ↔ r.HasNothing column) ∧
      (¬ r.HasNothing column → (r.read column : Except Fault (Option T.Member)) =
        (r.read column : Except Fault T.Member).map some) ∧
      (r.get? column = none → ∃ cause, cause.message = "column not found" ∧
        (r.read column : Except Fault T.Member) = .error (.column column cause)) ∧
      (∀ v, r.get? column = some v →
        (r.read column : Except Fault T.Member) = v.readAs T.Member column) ∧
      (∀ fault, (r.read column : Except Fault T.Member) = .error fault ∨
          (r.read column : Except Fault (Option T.Member)) = .error fault →
        ∃ cause, fault = .column column cause) ∧
      (∀ n, r.get? column = some (.integer n) →
        ((∃ m, (r.read column : Except Fault Int32) = .ok m) ↔
          -2147483648 ≤ n.toInt ∧ n.toInt ≤ 2147483647) ∧
        ∀ m, (r.read column : Except Fault Int32) = .ok m → m.toInt = n.toInt) ∧
      (∀ x : T.Member, r.get? column = some (toValue x) → r.read column = .ok x) ∧
      ∀ x : Option T.Member, r.get? column = some (toValue x) → r.read column = .ok x := by
  obtain ⟨cause, refused⟩ := T.exists_fromValue_null_eq_error
  obtain ⟨nothing, something⟩ := read_optional (α := T.Member) r column
  refine ⟨⟨?_, nothing⟩, something, ?_, ?_, ?_, ?_, ?_, ?_⟩
  · intro h
    by_contra present
    rw [something present] at h
    cases hx : (r.read column : Except Fault T.Member) <;> simp [hx, Except.map] at h
  · exact fun absent => ⟨.notFound, rfl, read_of_get?_eq_none refused absent⟩
  · exact fun v hv => read_of_get?_eq_some hv
  · rintro fault (h | h)
    · exact exists_cause_of_read_eq_error h
    · exact exists_cause_of_read_eq_error h
  · intro n hn
    have read (m : Int32) : (r.read column : Except Fault Int32) = .ok m ↔ m.toInt = n.toInt := by
      rw [read_eq_ok_iff, hn]
      exact Value.fromValue_integer32_iff
    refine ⟨?_, fun m => (read m).1⟩
    simp only [read]
    constructor
    · rintro ⟨m, same⟩
      exact same ▸ fitsInteger32_toInt m
    · exact fun fits => ⟨.ofInt n.toInt, toInt_ofInt_of_fitsInteger32 fits⟩
  · intro x hx
    rw [read_eq_ok_iff, hx]
    exact T.recoverable.fromValue_toValue x
  · intro x hx
    rw [read_eq_ok_iff, hx]
    exact T.recoverable.option x

/-- The first integer that 32 bits do not hold, a null, a text, and a column that is absent. -/
theorem read_required_and_optional_beyond_range :
    let r := ofList [("a", .integer 2147483648), ("b", .null), ("c", .text "x")]
    (¬ ∃ m, (r.read "a" : Except Fault Int32) = .ok m) ∧
      (r.read "b" : Except Fault (Option Bool)) = .ok none ∧
      (r.read "c" : Except Fault (Option String)) = .ok (some "x") ∧
      ∃ cause, cause.message = "column not found" ∧
        (r.read "d" : Except Fault Binary64) = .error (.column "d" cause) := by
  intro r
  have integer : r.get? "a" = some (.integer 2147483648) := rfl
  have null : r.HasNothing "b" := Or.inr rfl
  have text : r.get? "c" = some (toValue (some "x")) := rfl
  have absent : r.get? "d" = none := rfl
  refine ⟨?_, ?_, ?_, ?_⟩
  · rw [((read_required_and_optional r "a" .integer32).2.2.2.2.2.1 _ integer).1]
    decide
  · exact (read_required_and_optional r "b" .bool).1.2 null
  · exact (read_required_and_optional r "c" .text).2.2.2.2.2.2.2 _ text
  · exact (read_required_and_optional r "d" .real).2.2.1 absent

end Row

end BoundSql
