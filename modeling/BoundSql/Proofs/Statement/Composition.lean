import BoundSql.Proofs.Statement.Written

/-!
# Statements are composed of statements

Compiling looks at one clause after the other, so the statement of two lists put together is the
statement of the first followed by that of the second, with a blank between their texts unless one
of the lists is empty, and the first list that is refused decides (`Statement.ofClauses_append`).
There are six ways for a clause to be refused (`Clause.Refused`), and a list is refused for its
first clause that is.
-/

namespace BoundSql

/-! ## Clauses that are refused -/

theorem Row.isEmpty_iff {row : Row} : row.isEmpty = true ↔ row = .empty := by
  constructor
  · intro h
    obtain ⟨entries, nodup⟩ := row
    obtain rfl : entries = [] := List.isEmpty_iff.1 h
    rfl
  · rintro rfl
    rfl

namespace Clause

/-- The clauses that are no part of a statement, each with the reason. -/
inductive Refused : Clause → ClauseFault → Prop
  | unknown : Refused .unknown .unknownKind
  | insertInto (table : String) : Refused (.insertInto table .empty) (.noColumnValues .insertInto)
  | update (table : String) : Refused (.update table .empty) (.noColumnValues .update)
  | select (table : String) : Refused (.select table []) (.noColumns .select)
  | returning : Refused (.returning []) (.noColumns .returning)
  | filterAll : Refused (.filterAll []) .noConditions

theorem fault?_eq_some_iff {c : Clause} {cause : ClauseFault} :
    c.fault? = some cause ↔ c.Refused cause := by
  constructor
  · intro h
    cases c with
    | select table columns =>
      obtain ⟨hempty, ⟨⟩⟩ := Option.ite_none_right_eq_some.1 h
      rw [List.isEmpty_iff.1 hempty]
      exact .select table
    | insertInto table row =>
      obtain ⟨hempty, ⟨⟩⟩ := Option.ite_none_right_eq_some.1 h
      rw [Row.isEmpty_iff.1 hempty]
      exact .insertInto table
    | update table row =>
      obtain ⟨hempty, ⟨⟩⟩ := Option.ite_none_right_eq_some.1 h
      rw [Row.isEmpty_iff.1 hempty]
      exact .update table
    | deleteFrom table => exact nomatch h
    | innerJoin table tableColumn column => exact nomatch h
    | filter c => exact nomatch h
    | filterAll conditions =>
      obtain ⟨hempty, ⟨⟩⟩ := Option.ite_none_right_eq_some.1 h
      rw [List.isEmpty_iff.1 hempty]
      exact .filterAll
    | returning columns =>
      obtain ⟨hempty, ⟨⟩⟩ := Option.ite_none_right_eq_some.1 h
      rw [List.isEmpty_iff.1 hempty]
      exact .returning
    | unknown =>
      obtain rfl := Option.some.inj h
      exact .unknown
  · intro h
    cases h <;> rfl

theorem fault?_eq_none_iff {c : Clause} : c.fault? = none ↔ ∀ cause, ¬ c.Refused cause := by
  simp only [← fault?_eq_some_iff, Option.eq_none_iff_forall_ne_some, ne_eq]

/-- A list is refused for the first clause in it that is. -/
theorem listFault?_eq_some_iff {cs : List Clause} {cause : ClauseFault} :
    listFault? cs = some cause ↔ ∃ before c after, cs = before ++ c :: after ∧
      c.Refused cause ∧ ∀ b ∈ before, ∀ earlier, ¬ b.Refused earlier := by
  unfold listFault?
  simp only [List.findSome?_eq_some_iff, fault?_eq_some_iff, fault?_eq_none_iff]

theorem listFault?_append (as bs : List Clause) :
    listFault? (as ++ bs) = (listFault? as).or (listFault? bs) :=
  List.findSome?_append

/-! ## Lists put together -/

/-- What stands between the texts of two lists of clauses. -/
def separator (as bs : List Clause) : String := if as = [] ∨ bs = [] then "" else " "

theorem listText_append_eq (as bs : List Clause) :
    listText (as ++ bs) = listText as ++ (separator as bs).toList ++ listText bs := by
  have blank : " ".toList = [' '] := rfl
  cases as with
  | nil => rfl
  | cons a as =>
    cases bs with
    | nil => simp [separator, listText]
    | cons b bs =>
      rw [listText_append (List.cons_ne_nil a as), separator, if_neg (by simp), blank,
        List.append_assoc]
      rfl

end Clause

namespace Statement

open Clause

/-- The statement of two lists of clauses put together. -/
theorem written_append (as bs : List Clause) :
    written (as ++ bs) = ⟨(written as).sql ++ separator as bs ++ (written bs).sql,
      (written as).params ++ (written bs).params⟩ := by
  unfold written listParams
  rw [listText_append_eq, List.flatMap_append, String.ofList_append, String.ofList_append,
    String.ofList_toList]

/-- Compiling two lists put together is compiling one after the other. -/
theorem ofClauses_append (as bs : List Clause) :
    ofClauses (as ++ bs) =
      match ofClauses as, ofClauses bs with
      | .ok s, .ok t => .ok ⟨s.sql ++ separator as bs ++ t.sql, s.params ++ t.params⟩
      | .ok _, .error fault => .error fault
      | .error fault, _ => .error fault := by
  rw [ofClauses_eq, ofClauses_eq, ofClauses_eq, listFault?_append, written_append]
  cases listFault? as with
  | some cause => rfl
  | none => cases listFault? bs <;> rfl

theorem ofClauses_eq_error_iff {cs : List Clause} {fault : Fault} :
    ofClauses cs = .error fault ↔
      ∃ cause, listFault? cs = some cause ∧ fault = .invalidClause cause := by
  rw [ofClauses_eq]
  cases listFault? cs with
  | some cause => simp [eq_comm]
  | none => simp

theorem exists_ofClauses_eq_ok_iff {cs : List Clause} :
    (∃ s, ofClauses cs = .ok s) ↔ ∀ c ∈ cs, ∀ cause, ¬ c.Refused cause := by
  simp only [ofClauses_eq_ok_iff, exists_and_left, exists_eq, and_true, fault?_eq_none_iff]

/-- The statement of two lists put together is that of the first and that of the second with one
blank between them, or none beside an empty list; the first of the two that is refused decides.  A
list is a statement when none of its clauses is refused, and else it is refused for the first that
is. -/
theorem ofClauses_homomorphic (as bs : List Clause) :
    ofClauses (as ++ bs) =
        (match ofClauses as, ofClauses bs with
        | .ok s, .ok t => .ok ⟨s.sql ++ separator as bs ++ t.sql, s.params ++ t.params⟩
        | .ok _, .error fault => .error fault
        | .error fault, _ => .error fault) ∧
      ((∃ s, ofClauses as = .ok s) ↔ ∀ c ∈ as, ∀ cause, ¬ c.Refused cause) ∧
      ∀ fault, ofClauses as = .error fault ↔
        ∃ before c after cause, as = before ++ c :: after ∧ c.Refused cause ∧
          (∀ b ∈ before, ∀ earlier, ¬ b.Refused earlier) ∧ fault = .invalidClause cause := by
  refine ⟨ofClauses_append as bs, exists_ofClauses_eq_ok_iff, fun fault => ?_⟩
  rw [ofClauses_eq_error_iff]
  constructor
  · rintro ⟨cause, first, rfl⟩
    obtain ⟨before, c, after, split, refused, earlier⟩ := listFault?_eq_some_iff.1 first
    exact ⟨before, c, after, cause, split, refused, earlier, rfl⟩
  · rintro ⟨before, c, after, cause, split, refused, earlier, rfl⟩
    exact ⟨cause, listFault?_eq_some_iff.2 ⟨before, c, after, split, refused, earlier⟩, rfl⟩

/-- The second clause is refused before the third. -/
example : ofClauses [.deleteFrom "a", .filterAll [], .unknown] =
    .error (.invalidClause .noConditions) := rfl

end Statement

end BoundSql
