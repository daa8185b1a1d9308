import BoundSql.Proofs.Statement.Written
import Mathlib.Data.List.Forall2

/-!
# Clauses of the same shape

Two clauses have the same shape (`Clause.SameShape`) when they differ at most in the values of
their conditions and of the rows that they write.  The pieces of a clause and its fault depend on
its shape alone, so no value has an influence on the text of a statement or on whether there is one
(`Statement.ofClauses_of_sameShape`); values travel as parameters only.
-/

namespace BoundSql

/-- Two conditions differ at most in their values. -/
structure Condition.SameShape (c d : Condition) : Prop where
  column : c.column = d.column
  comparator : c.comparator = d.comparator

namespace Clause

/-- Two clauses differ at most in the values of their conditions and of the rows that they write. -/
inductive SameShape : Clause → Clause → Prop
  | select (table : String) (columns : List String) :
    SameShape (.select table columns) (.select table columns)
  | insertInto (table : String) {r s : Row} (columns : r.columns = s.columns) :
    SameShape (.insertInto table r) (.insertInto table s)
  | update (table : String) {r s : Row} (columns : r.columns = s.columns) :
    SameShape (.update table r) (.update table s)
  | deleteFrom (table : String) : SameShape (.deleteFrom table) (.deleteFrom table)
  | innerJoin (table tableColumn column : String) :
    SameShape (.innerJoin table tableColumn column) (.innerJoin table tableColumn column)
  | filter {c d : Condition} (same : c.SameShape d) : SameShape (.filter c) (.filter d)
  | filterAll {cs ds : List Condition} (same : List.Forall₂ Condition.SameShape cs ds) :
    SameShape (.filterAll cs) (.filterAll ds)
  | returning (columns : List String) : SameShape (.returning columns) (.returning columns)
  | unknown : SameShape .unknown .unknown

end Clause

/-! ## One clause -/

/-- Related elements at which a function agrees make lists at which it agrees. -/
theorem map_eq_of_forall₂ {α β : Type} {R : α → α → Prop} {f : α → β}
    (h : ∀ a b, R a b → f a = f b) {as bs : List α} (hs : List.Forall₂ R as bs) :
    as.map f = bs.map f := by
  have along : List.Forall₂ (fun a b => f a = f b) as bs := hs.imp h
  rwa [← List.forall₂_eq_eq_eq, List.forall₂_map_left_iff, List.forall₂_map_right_iff]

theorem Condition.SameShape.pieces_eq {c d : Condition} (h : c.SameShape d) :
    c.pieces = d.pieces := by
  unfold pieces
  rw [h.column, h.comparator]

theorem Row.isEmpty_columns (r : Row) : r.columns.isEmpty = r.isEmpty := List.isEmpty_map

theorem Row.isEmpty_eq_of_columns_eq {r s : Row} (h : r.columns = s.columns) :
    r.isEmpty = s.isEmpty := by
  rw [← r.isEmpty_columns, ← s.isEmpty_columns, h]

namespace Clause.SameShape

open Piece

variable {c d : Clause}

theorem text_eq (h : c.SameShape d) : c.text = d.text := by
  unfold text
  cases h with
  | insertInto table columns => simp only [pieces, columns]
  | update table columns => simp only [pieces, columns]
  | filter same => simp only [pieces, same.pieces_eq]
  | filterAll same =>
    simp only [pieces, map_eq_of_forall₂ (fun _ _ h => Condition.SameShape.pieces_eq h) same]
  | _ => rfl

theorem fault?_eq (h : c.SameShape d) : c.fault? = d.fault? := by
  cases h with
  | insertInto table columns => simp only [fault?, Row.isEmpty_eq_of_columns_eq columns]
  | update table columns => simp only [fault?, Row.isEmpty_eq_of_columns_eq columns]
  | filterAll same => cases same <;> rfl
  | _ => rfl

end Clause.SameShape

/-! ## Lists of clauses -/

namespace Clause

variable {cs ds : List Clause}

theorem listText_eq_of_sameShape (h : List.Forall₂ SameShape cs ds) :
    listText cs = listText ds := by
  rw [← intercalate_text, ← intercalate_text, map_eq_of_forall₂ (fun _ _ h => h.text_eq) h]

/-- Clauses that are refused alike make lists that are refused alike. -/
theorem listFault?_eq_of_forall₂ {R : Clause → Clause → Prop}
    (h : ∀ c d, R c d → c.fault? = d.fault?) (hs : List.Forall₂ R cs ds) :
    listFault? cs = listFault? ds := by
  have along (es : List Clause) : listFault? es = (es.map fault?).findSome? id := by
    rw [List.findSome?_map, Function.id_comp, listFault?]
  rw [along, along, map_eq_of_forall₂ h hs]

theorem listFault?_eq_of_sameShape (h : List.Forall₂ SameShape cs ds) :
    listFault? cs = listFault? ds :=
  listFault?_eq_of_forall₂ (fun _ _ h => h.fault?_eq) h

end Clause

namespace Statement

/-- Lists of clauses that differ at most in their values are refused for the same fault, or they
are statements with the same text, and each of them binds its own values in order. -/
theorem ofClauses_of_sameShape {cs ds : List Clause} (h : List.Forall₂ Clause.SameShape cs ds) :
    (∃ fault, Clause.listFault? cs = some fault ∧ ofClauses cs = .error (.invalidClause fault) ∧
        ofClauses ds = .error (.invalidClause fault)) ∨
      (Clause.listFault? cs = none ∧ ∃ sql, ofClauses cs = .ok ⟨sql, Clause.listParams cs⟩ ∧
        ofClauses ds = .ok ⟨sql, Clause.listParams ds⟩) := by
  have htext := Clause.listText_eq_of_sameShape h
  have hfault := Clause.listFault?_eq_of_sameShape h
  rw [ofClauses_eq, ofClauses_eq, written, written, ← hfault, ← htext]
  cases Clause.listFault? cs with
  | some fault => exact Or.inl ⟨fault, rfl, rfl, rfl⟩
  | none => exact Or.inr ⟨rfl, _, rfl, rfl⟩

/-- A text that looks like SQL, with an accent and a mark in it, in the place of a harmless one. -/
theorem ofClauses_of_sameShape_sql_in_text :
    List.Forall₂ Clause.SameShape
        [.update "a`" (.ofList [("b", .text "x")]), .filter ⟨"id", .equal, .integer 1⟩]
        [.update "a`" (.ofList [("b", .text "`?', c = ? --")]),
          .filter ⟨"id", .equal, .text "1 OR 1 = 1"⟩] ∧
      ∃ sql,
        ofClauses [.update "a`" (.ofList [("b", .text "x")]),
            .filter ⟨"id", .equal, .integer 1⟩] =
          .ok ⟨sql, [.text "x", .integer 1]⟩ ∧
        ofClauses [.update "a`" (.ofList [("b", .text "`?', c = ? --")]),
            .filter ⟨"id", .equal, .text "1 OR 1 = 1"⟩] =
          .ok ⟨sql, [.text "`?', c = ? --", .text "1 OR 1 = 1"]⟩ := by
  have same : List.Forall₂ Clause.SameShape
      [.update "a`" (.ofList [("b", .text "x")]), .filter ⟨"id", .equal, .integer 1⟩]
      [.update "a`" (.ofList [("b", .text "`?', c = ? --")]),
        .filter ⟨"id", .equal, .text "1 OR 1 = 1"⟩] :=
    .cons (.update _ rfl) (.cons (.filter ⟨rfl, rfl⟩) .nil)
  rcases ofClauses_of_sameShape same with ⟨fault, refused, -⟩ | ⟨-, written⟩
  · exact nomatch refused
  · exact ⟨same, written⟩

end Statement

end BoundSql
