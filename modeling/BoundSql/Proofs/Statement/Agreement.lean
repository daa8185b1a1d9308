import BoundSql.Proofs.Row
import BoundSql.Proofs.Statement.Assignment
import BoundSql.Proofs.Statement.Shape
import Mathlib.Data.List.Perm.Subperm

/-!
# Clauses that agree write alike

Clauses agree when they are the same up to the order of written columns and the bit patterns of
floating point numbers (`Clause.agrees`).  The comparison of two rows only counts the columns and
looks up those of the first row in the second; since columns are distinct, this makes the columns a
permutation of each other (`Row.columns_perm_of_agrees`).  So clauses that agree are refused alike
or write alike (`Clause.WriteAlike`): the same text and agreeing parameters, or, for rows, the same
assignment of values to columns.
-/

namespace BoundSql

/-! ## Values and rows -/

/-- The values agree one by one. -/
def Value.AgreeAll (vs ws : List Value) : Prop :=
  List.Forall₂ (fun v w => v.agrees w = true) vs ws

namespace Row

variable {r s : Row}

theorem agrees_iff : r.agrees s = true ↔ r.size = s.size ∧
    ∀ e ∈ r.entries, ∃ w, s.get? e.1 = some w ∧ e.2.agrees w = true := by
  simp only [agrees, Bool.and_eq_true, beq_iff_eq, List.all_eq_true, Option.any_eq_true]

/-- Distinct columns that are found among equally many others are all of these. -/
theorem columns_perm_of_agrees (h : r.agrees s = true) : r.columns.Perm s.columns := by
  obtain ⟨size, found⟩ := agrees_iff.1 h
  have subset : r.columns ⊆ s.columns := by
    intro c hc
    obtain ⟨e, he, rfl⟩ := List.mem_map.1 hc
    obtain ⟨w, hw, -⟩ := found e he
    exact List.mem_map.2 ⟨(e.1, w), get?_eq_some_iff.1 hw, rfl⟩
  have length : s.columns.length ≤ r.columns.length := by
    rw [columns, columns, List.length_map, List.length_map]
    exact Nat.le_of_eq size.symm
  exact (r.nodup.subperm subset).perm_of_length_le length

theorem isEmpty_eq_of_agrees (h : r.agrees s = true) : r.isEmpty = s.isEmpty := by
  rw [← r.isEmpty_columns, ← s.isEmpty_columns, (columns_perm_of_agrees h).isEmpty_eq]

theorem get?_eq_none_iff {column : String} : r.get? column = none ↔ column ∉ r.columns := by
  rw [Option.eq_none_iff_forall_ne_some, columns, List.mem_map]
  constructor
  · rintro h ⟨e, he, rfl⟩
    exact h e.2 (get?_eq_some_iff.2 he)
  · intro h v hv
    exact h ⟨(column, v), get?_eq_some_iff.1 hv, rfl⟩

theorem get?_of_agrees (h : r.agrees s = true) (column : String) :
    Option.Rel (fun v w => v.agrees w = true) (r.get? column) (s.get? column) := by
  cases hv : r.get? column with
  | none =>
    have absent : column ∉ s.columns := fun hc =>
      get?_eq_none_iff.1 hv ((columns_perm_of_agrees h).mem_iff.2 hc)
    rw [get?_eq_none_iff.2 absent]
    exact .none
  | some v =>
    obtain ⟨w, hw, agree⟩ := (agrees_iff.1 h).2 (column, v) (get?_eq_some_iff.1 hv)
    rw [hw]
    exact .some agree

/-- Rows that agree and list their columns in the same order list agreeing values. -/
theorem values_of_agrees (h : r.agrees s = true) (columns : r.columns = s.columns) :
    Value.AgreeAll r.values s.values := by
  have paired : List.Forall₂ (fun e f : String × Value => e.1 = f.1) r.entries s.entries := by
    have same : List.Forall₂ (· = ·) r.columns s.columns := by
      rw [List.forall₂_eq_eq_eq]
      exact columns
    exact List.forall₂_map_right_iff.1 (List.forall₂_map_left_iff.1 same)
  obtain ⟨length, zipped⟩ := List.forall₂_iff_zip.1 paired
  unfold Value.AgreeAll values
  rw [List.forall₂_map_left_iff, List.forall₂_map_right_iff]
  refine List.forall₂_iff_zip.2 ⟨length, fun {e f} hef => ?_⟩
  obtain ⟨he, hf⟩ := List.of_mem_zip hef
  obtain ⟨w, hw, agree⟩ := (agrees_iff.1 h).2 e he
  rw [zipped hef, get?_of_mem hf] at hw
  rwa [← Option.some.inj hw] at agree

end Row

/-- The assignments give agreeing values to the same columns of the same table, in whatever order,
and the same comes after them. -/
structure Assignment.Agrees (a b : Assignment) : Prop where
  table : a.table = b.table
  distinct : a.columns.Nodup
  columns : a.columns.Perm b.columns
  values : ∀ column,
    Option.Rel (fun v w => v.agrees w = true) (a.entries.lookup column) (b.entries.lookup column)
  rest : a.rest = b.rest

theorem Assignment.agrees_of_agrees {r s : Row} (h : r.agrees s = true) (table : String)
    (rest : Statement) : Agrees ⟨table, r.entries, rest⟩ ⟨table, s.entries, rest⟩ where
  table := rfl
  distinct := r.nodup
  columns := Row.columns_perm_of_agrees h
  values := Row.get?_of_agrees h
  rest := rfl

/-! ## Clauses -/

namespace Clause

theorem isEqv_iff_forall₂ {α : Type} {p : α → α → Bool} {as bs : List α} :
    as.isEqv bs p = true ↔ List.Forall₂ (fun a b => p a b = true) as bs := by
  induction as generalizing bs with
  | nil => cases bs <;> simp
  | cons a as ih => cases bs <;> simp [List.isEqv_cons_cons, ih]

/-- The ways in which clauses agree. -/
inductive Agreeing : Clause → Clause → Prop
  | select (table : String) (columns : List String) :
    Agreeing (.select table columns) (.select table columns)
  | insertInto (table : String) {r s : Row} (agree : r.agrees s = true) :
    Agreeing (.insertInto table r) (.insertInto table s)
  | update (table : String) {r s : Row} (agree : r.agrees s = true) :
    Agreeing (.update table r) (.update table s)
  | deleteFrom (table : String) : Agreeing (.deleteFrom table) (.deleteFrom table)
  | innerJoin (table tableColumn column : String) :
    Agreeing (.innerJoin table tableColumn column) (.innerJoin table tableColumn column)
  | filter {c d : Condition} (agree : c.agrees d = true) : Agreeing (.filter c) (.filter d)
  | filterAll {cs ds : List Condition}
    (agree : List.Forall₂ (fun c d => c.agrees d = true) cs ds) :
    Agreeing (.filterAll cs) (.filterAll ds)
  | returning (columns : List String) : Agreeing (.returning columns) (.returning columns)
  | unknown : Agreeing .unknown .unknown

theorem agreeing_of_agrees {c d : Clause} (h : c.agrees d = true) : c.Agreeing d := by
  unfold agrees at h
  split at h
  · simp only [Bool.and_eq_true, beq_iff_eq] at h
    obtain ⟨rfl, rfl⟩ := h
    exact .select _ _
  · simp only [Bool.and_eq_true, beq_iff_eq] at h
    obtain ⟨rfl, agree⟩ := h
    exact .insertInto _ agree
  · simp only [Bool.and_eq_true, beq_iff_eq] at h
    obtain ⟨rfl, agree⟩ := h
    exact .update _ agree
  · obtain rfl := beq_iff_eq.1 h
    exact .deleteFrom _
  · simp only [Bool.and_eq_true, beq_iff_eq] at h
    obtain ⟨⟨rfl, rfl⟩, rfl⟩ := h
    exact .innerJoin _ _ _
  · exact .filter h
  · exact .filterAll (isEqv_iff_forall₂.1 h)
  · obtain rfl := beq_iff_eq.1 h
    exact .returning _
  · exact .unknown
  · exact nomatch h

/-- The columns of the row that a clause writes, in order. -/
def rowColumns : Clause → List String
  | .insertInto _ row => row.columns
  | .update _ row => row.columns
  | _ => []

/-- Each of the clauses is a statement, and the two statements assign agreeing values to the same
columns, when they insert or update, or else have the same text and agreeing parameters. -/
def WriteAlike (c d : Clause) : Prop :=
  c.kind = d.kind ∧ ∃ s t, c.compile = .ok s ∧ d.compile = .ok t ∧
    match c.kind with
    | .insertInto => ∃ a b, s.insertion? = some a ∧ t.insertion? = some b ∧ a.Agrees b
    | .update => ∃ a b, s.update? = some a ∧ t.update? = some b ∧ a.Agrees b
    | _ => s.sql = t.sql ∧ Value.AgreeAll s.params t.params

namespace Agreeing

variable {c d : Clause}

theorem fault?_eq (h : c.Agreeing d) : c.fault? = d.fault? := by
  cases h with
  | insertInto table agree => simp only [fault?, Row.isEmpty_eq_of_agrees agree]
  | update table agree => simp only [fault?, Row.isEmpty_eq_of_agrees agree]
  | filterAll agree => cases agree <;> rfl
  | _ => rfl

theorem sameShape_condition {c d : Condition} (h : c.agrees d = true) : c.SameShape d := by
  simp only [Condition.agrees, Bool.and_eq_true, beq_iff_eq, decide_eq_true_eq] at h
  exact ⟨h.1.1, h.1.2⟩

theorem sameShape (h : c.Agreeing d) (order : c.rowColumns = d.rowColumns) : c.SameShape d := by
  cases h with
  | select table columns => exact .select table columns
  | insertInto table agree => exact .insertInto table order
  | update table agree => exact .update table order
  | deleteFrom table => exact .deleteFrom table
  | innerJoin table tableColumn column => exact .innerJoin table tableColumn column
  | filter agree => exact .filter (sameShape_condition agree)
  | filterAll agree => exact .filterAll (agree.imp fun _ _ => sameShape_condition)
  | returning columns => exact .returning columns
  | unknown => exact .unknown

theorem params (h : c.Agreeing d) (order : c.rowColumns = d.rowColumns) :
    Value.AgreeAll c.params d.params := by
  have value {c d : Condition} (h : c.agrees d = true) : c.value.agrees d.value = true := by
    simp only [Condition.agrees, Bool.and_eq_true] at h
    exact h.2
  cases h with
  | insertInto table agree => exact Row.values_of_agrees agree order
  | update table agree => exact Row.values_of_agrees agree order
  | filter agree => exact .cons (value agree) .nil
  | filterAll agree =>
    exact List.forall₂_map_left_iff.2 (List.forall₂_map_right_iff.2 (agree.imp fun _ _ => value))
  | _ => exact .nil

theorem writeAlike (h : c.Agreeing d) (faultless : c.fault? = none) : c.WriteAlike d := by
  have compiled {e : Clause} (he : e.fault? = none) : e.compile = .ok e.written := by
    rw [compile_eq, he]
  have hd : d.fault? = none := h.fault?_eq ▸ faultless
  -- Without a row, the order of columns is no matter and so the texts are the same.
  have alike (order : c.rowColumns = d.rowColumns) :
      c.written.sql = d.written.sql ∧ Value.AgreeAll c.written.params d.written.params :=
    ⟨congrArg String.ofList (h.sameShape order).text_eq, h.params order⟩
  refine ⟨?_, c.written, d.written, compiled faultless, compiled hd, ?_⟩
  · cases h <;> rfl
  · cases h with
    | @insertInto table r s agree =>
      have hr : r.isEmpty = false := by simpa [fault?] using faultless
      have hs : s.isEmpty = false := by simpa [fault?] using hd
      rw [← Statement.written_singleton, ← Statement.written_singleton]
      exact ⟨_, _, Statement.insertion?_written table hr [],
        Statement.insertion?_written table hs [], Assignment.agrees_of_agrees agree table _⟩
    | @update table r s agree =>
      have hr : r.isEmpty = false := by simpa [fault?] using faultless
      have hs : s.isEmpty = false := by simpa [fault?] using hd
      rw [← Statement.written_singleton, ← Statement.written_singleton]
      exact ⟨_, _, Statement.update?_written table hr [], Statement.update?_written table hs [],
        Assignment.agrees_of_agrees agree table _⟩
    | _ => exact alike rfl

end Agreeing

/-! ## Lists of clauses -/

theorem listParams_of_agreeing {cs ds : List Clause} (h : List.Forall₂ Agreeing cs ds)
    (order : List.Forall₂ (fun c d => c.rowColumns = d.rowColumns) cs ds) :
    Value.AgreeAll (listParams cs) (listParams ds) := by
  have both : List.Forall₂ (fun c d => Agreeing c d ∧ c.rowColumns = d.rowColumns) cs ds :=
    List.Forall₂.mp (fun _ _ => And.intro) h order
  exact List.rel_flatMap both fun _ _ h => h.1.params h.2

end Clause

namespace Statement

open Clause

/-- Lists of clauses that agree are refused for the same fault, or both are statements that agree
clause by clause; and if their rows list the columns in the same order, the statements have the same
text and agreeing parameters. -/
theorem ofClauses_of_listAgrees {cs ds : List Clause} (h : listAgrees cs ds = true) :
    (∃ fault, ofClauses cs = .error fault ∧ ofClauses ds = .error fault) ∨
      ∃ s t, ofClauses cs = .ok s ∧ ofClauses ds = .ok t ∧ cs.length = ds.length ∧
        List.Forall₂ WriteAlike cs ds ∧
        (List.Forall₂ (fun c d => c.rowColumns = d.rowColumns) cs ds →
          s.sql = t.sql ∧ Value.AgreeAll s.params t.params) := by
  have agreeing : List.Forall₂ Agreeing cs ds :=
    (isEqv_iff_forall₂.1 h).imp fun _ _ => agreeing_of_agrees
  have hfault := listFault?_eq_of_forall₂ (fun _ _ h => h.fault?_eq) agreeing
  rw [ofClauses_eq, ofClauses_eq, ← hfault]
  cases faultless : listFault? cs with
  | some fault => exact Or.inl ⟨_, rfl, rfl⟩
  | none =>
    refine Or.inr ⟨_, _, rfl, rfl, agreeing.length_eq, ?_, fun order => ?_⟩
    · have hcs : ∀ c ∈ cs, c.fault? = none := List.findSome?_eq_none_iff.1 faultless
      exact ((List.forall₂_and_left _ _).2 ⟨hcs, agreeing⟩).imp fun _ _ h => h.2.writeAlike h.1
    · have same : List.Forall₂ SameShape cs ds :=
        List.Forall₂.mp (fun _ _ h => h.sameShape) agreeing order
      exact ⟨congrArg String.ofList (listText_eq_of_sameShape same),
        listParams_of_agreeing agreeing order⟩

/-- Columns in another order, and zeros of either sign. -/
theorem ofClauses_of_listAgrees_reordered_zeros :
    listAgrees
        [.update "t" (.ofList [("a", .text "?"), ("b", .real ⟨0⟩)]),
          .filter ⟨"id", .equal, .real ⟨0x8000000000000000⟩⟩]
        [.update "t" (.ofList [("b", .real ⟨0x8000000000000000⟩), ("a", .text "?")]),
          .filter ⟨"id", .equal, .real ⟨0⟩⟩] = true ∧
      ∃ s t,
        ofClauses [.update "t" (.ofList [("a", .text "?"), ("b", .real ⟨0⟩)]),
            .filter ⟨"id", .equal, .real ⟨0x8000000000000000⟩⟩] = .ok s ∧
        ofClauses [.update "t" (.ofList [("b", .real ⟨0x8000000000000000⟩), ("a", .text "?")]),
            .filter ⟨"id", .equal, .real ⟨0⟩⟩] = .ok t ∧
        List.Forall₂ WriteAlike
          [.update "t" (.ofList [("a", .text "?"), ("b", .real ⟨0⟩)]),
            .filter ⟨"id", .equal, .real ⟨0x8000000000000000⟩⟩]
          [.update "t" (.ofList [("b", .real ⟨0x8000000000000000⟩), ("a", .text "?")]),
            .filter ⟨"id", .equal, .real ⟨0⟩⟩] := by
  have agree : listAgrees
      [.update "t" (.ofList [("a", .text "?"), ("b", .real ⟨0⟩)]),
        .filter ⟨"id", .equal, .real ⟨0x8000000000000000⟩⟩]
      [.update "t" (.ofList [("b", .real ⟨0x8000000000000000⟩), ("a", .text "?")]),
        .filter ⟨"id", .equal, .real ⟨0⟩⟩] = true := by decide
  rcases ofClauses_of_listAgrees agree with ⟨fault, refused, -⟩ | ⟨s, t, hs, ht, -, alike, -⟩
  · rw [ofClauses_eq] at refused
    exact nomatch refused
  · exact ⟨agree, s, t, hs, ht, alike⟩

end Statement

end BoundSql
