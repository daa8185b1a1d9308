import BoundSql.Statement.Compile
import Mathlib.Data.List.Basic

/-!
# Clauses in pieces

The text of a clause is a sequence of pieces (`Clause.pieces`), of which each is a fixed word, a
quoted name, a text of the clause as it stands, or the placeholder of a value.  The words come from
a small vocabulary (`allowed_of_mem_pieces`), and there is one placeholder for each value that the
clause binds (`count_mark_pieces`).
-/

namespace BoundSql

/-- None of the given characters occurs in the text. -/
def Text.Lacks (chars s : List Char) : Prop := ∀ x ∈ chars, x ∉ s

instance (chars s : List Char) : Decidable (Text.Lacks chars s) :=
  List.decidableBAll (fun x => x ∉ s) chars

/-! ## Pieces of SQL text -/

/-- A piece of SQL text. -/
inductive Piece
  /-- A word that does not depend on the clause beyond its kind. -/
  | word (s : String)
  /-- A name, which is quoted. -/
  | name (s : String)
  /-- A text that stands as it is. -/
  | verbatim (s : String)
  /-- The placeholder of a value. -/
  | mark
deriving DecidableEq

namespace Name

/-- A name as it is written in SQL, as characters. -/
def quoted (name : List Char) : List Char :=
  if name = ['*'] then name else accent :: body name ++ [accent]

theorem toList_quote (name : String) : (quote name).toList = quoted name.toList := by
  have star : "*".toList = ['*'] := rfl
  have h : name = "*" ↔ name.toList = ['*'] := by rw [← star, String.toList_inj]
  unfold quote quoted
  by_cases hn : name = "*"
  · rw [if_pos hn, if_pos (h.1 hn)]
  · rw [if_neg hn, if_neg (fun e => hn (h.2 e)), String.toList_ofList]

end Name

namespace Piece

/-- The characters of a piece. -/
def chars : Piece → List Char
  | .word s => s.toList
  | .name s => Name.quoted s.toList
  | .verbatim s => s.toList
  | .mark => ['?']

/-- The characters of pieces that follow each other. -/
def text (ps : List Piece) : List Char := ps.flatMap chars

/-- Groups of pieces with a word between each two of them. -/
def joined (sep : String) (groups : List (List Piece)) : List Piece :=
  [word sep].intercalate groups

theorem text_append (ps qs : List Piece) : text (ps ++ qs) = text ps ++ text qs :=
  List.flatMap_append

theorem text_cons (p : Piece) (ps : List Piece) : text (p :: ps) = p.chars ++ text ps :=
  List.flatMap_cons

theorem text_nil : text [] = [] := rfl

theorem joined_cons_cons (sep : String) (g h : List Piece) (gs : List (List Piece)) :
    joined sep (g :: h :: gs) = g ++ word sep :: joined sep (h :: gs) := by
  simp [joined, List.intercalate_cons_cons]

theorem joined_singleton (sep : String) (g : List Piece) : joined sep [g] = g :=
  List.intercalate_singleton

theorem mem_joined {sep : String} {groups : List (List Piece)} {p : Piece}
    (h : p ∈ joined sep groups) : p = word sep ∨ ∃ g ∈ groups, p ∈ g := by
  induction groups with
  | nil => simp [joined] at h
  | cons g gs ih =>
    cases gs with
    | nil => exact Or.inr ⟨g, List.mem_cons_self, by rwa [joined_singleton] at h⟩
    | cons k ks =>
      rw [joined_cons_cons, List.mem_append, List.mem_cons] at h
      rcases h with h | h | h
      · exact Or.inr ⟨g, List.mem_cons_self, h⟩
      · exact Or.inl h
      · rcases ih h with e | ⟨g', hg', hp⟩
        · exact Or.inl e
        · exact Or.inr ⟨g', List.mem_cons_of_mem _ hg', hp⟩

theorem count_mark_joined (sep : String) (groups : List (List Piece)) :
    (joined sep groups).count mark = groups.flatten.count mark := by
  induction groups with
  | nil => rfl
  | cons g gs ih =>
    cases gs with
    | nil => simp [joined_singleton]
    | cons k ks =>
      have hw : word sep ≠ mark := fun e => nomatch e
      rw [joined_cons_cons, List.count_append, List.count_cons_of_ne hw, ih, ← List.count_append,
        ← List.flatten_cons]

theorem text_joined (sep : String) (groups : List (List Piece)) :
    text (joined sep groups) = sep.toList.intercalate (groups.map text) := by
  induction groups with
  | nil => rfl
  | cons g gs ih =>
    cases gs with
    | nil => simp only [joined_singleton, List.map_cons, List.map_nil, List.intercalate_singleton]
    | cons h hs =>
      rw [joined_cons_cons, text_append, text_cons, ih]
      simp only [chars, List.map_cons, List.intercalate_cons_cons, List.append_assoc]

end Piece

/-- The pieces of a condition. -/
def Condition.pieces (c : Condition) : List Piece :=
  [.verbatim c.column, .word " ", .word c.comparator.sql, .word " ", .mark]

namespace Clause

open Piece

/-! ## The parts of a clause -/

/-- The values that a clause binds, in order. -/
def params : Clause → List Value
  | .insertInto _ row => row.values
  | .update _ row => row.values
  | .filter c => [c.value]
  | .filterAll conditions => conditions.map Condition.value
  | _ => []

/-- The text of a clause, in pieces. -/
def pieces : Clause → List Piece
  | .select table columns =>
    word "SELECT " :: (joined "," (columns.map fun c => [verbatim c]) ++
      [word " FROM ", name table])
  | .insertInto table row =>
    word "INSERT INTO " :: name table :: word " (" ::
      (joined "," (row.columns.map fun c => [name c]) ++
        word ") VALUES (" :: (joined "," (row.columns.map fun _ => [mark]) ++ [word ")"]))
  | .update table row =>
    word "UPDATE " :: name table :: word " SET " ::
      joined "," (row.columns.map fun c => [name c, word " = ", mark])
  | .deleteFrom table => [word "DELETE FROM ", name table]
  | .innerJoin table tableColumn column =>
    [word "INNER JOIN ", name table, word " ON ", verbatim tableColumn, word " = ",
      verbatim column]
  | .filter c => word "WHERE " :: c.pieces
  | .filterAll conditions => word "WHERE " :: joined " AND " (conditions.map Condition.pieces)
  | .returning columns => word "RETURNING " :: joined "," (columns.map fun c => [verbatim c])
  | .unknown => []

/-- The texts of a clause that stand in SQL as they are. -/
def texts : Clause → List String
  | .select _ columns => columns
  | .innerJoin _ tableColumn column => [tableColumn, column]
  | .filter c => [c.column]
  | .filterAll conditions => conditions.map Condition.column
  | .returning columns => columns
  | _ => []

/-- None of the given characters occurs in a text of the clause that stands in SQL as it is. -/
def Avoids (chars : List Char) (c : Clause) : Prop := ∀ t ∈ c.texts, Text.Lacks chars t.toList

instance (chars : List Char) (c : Clause) : Decidable (c.Avoids chars) :=
  List.decidableBAll (fun t : String => Text.Lacks chars t.toList) c.texts

/-- The words that clauses are written with. -/
def vocabulary : List String :=
  ["SELECT ", " FROM ", "INSERT INTO ", " (", ") VALUES (", ")", "UPDATE ", " SET ", " = ",
    "DELETE FROM ", "INNER JOIN ", " ON ", "WHERE ", " AND ", "RETURNING ", ",", " "] ++
    Comparator.all.map Comparator.sql

/-- The text of a clause. -/
def text (c : Clause) : List Char := Piece.text c.pieces

/-! ### What the pieces are -/

/-- What a piece of a clause can be: a word of the vocabulary, a name, a text of the clause as it
stands, or a mark. -/
def Allowed (c : Clause) (p : Piece) : Prop :=
  (∃ w ∈ vocabulary, p = word w) ∨ (∃ n, p = name n) ∨ (∃ t ∈ c.texts, p = verbatim t) ∨ p = mark

theorem allowed_word (c : Clause) {w : String} (h : w ∈ vocabulary) : c.Allowed (word w) :=
  Or.inl ⟨w, h, rfl⟩

theorem allowed_name (c : Clause) (n : String) : c.Allowed (name n) := Or.inr (Or.inl ⟨n, rfl⟩)

theorem allowed_verbatim {c : Clause} {t : String} (h : t ∈ c.texts) : c.Allowed (verbatim t) :=
  Or.inr (Or.inr (Or.inl ⟨t, h, rfl⟩))

theorem allowed_mark (c : Clause) : c.Allowed mark := Or.inr (Or.inr (Or.inr rfl))

theorem allowed_condition {c : Clause} {d : Condition} (h : d.column ∈ c.texts) :
    ∀ p ∈ d.pieces, c.Allowed p := by
  have spelling : d.comparator.sql ∈ vocabulary :=
    List.mem_append_right _ (List.mem_map_of_mem (Comparator.mem_all _))
  have blank : c.Allowed (word " ") := allowed_word c (by decide)
  simp only [Condition.pieces, List.forall_mem_cons, List.not_mem_nil, false_implies, implies_true]
  exact ⟨allowed_verbatim h, blank, allowed_word c spelling, blank, allowed_mark c, trivial⟩

theorem allowed_joined {c : Clause} {sep : String} (hsep : sep ∈ vocabulary) {α : Type}
    {xs : List α} {f : α → List Piece} (h : ∀ x ∈ xs, ∀ p ∈ f x, c.Allowed p) :
    ∀ p ∈ joined sep (xs.map f), c.Allowed p := by
  intro p hp
  rcases mem_joined hp with rfl | ⟨g, hg, hp⟩
  · exact allowed_word c hsep
  · obtain ⟨x, hx, rfl⟩ := List.mem_map.1 hg
    exact h x hx p hp

theorem allowed_of_mem_pieces (c : Clause) : ∀ p ∈ c.pieces, c.Allowed p := by
  have comma : "," ∈ vocabulary := by decide
  cases c with
  | select table columns =>
    simp only [pieces, List.forall_mem_cons, List.forall_mem_append, List.not_mem_nil,
      false_implies, implies_true]
    refine ⟨allowed_word _ (by decide), allowed_joined comma fun c hc => ?_,
      allowed_word _ (by decide), allowed_name _ _, trivial⟩
    exact List.forall_mem_singleton.2 (allowed_verbatim hc)
  | insertInto table row =>
    simp only [pieces, List.forall_mem_cons, List.forall_mem_append, List.not_mem_nil,
      false_implies, implies_true]
    refine ⟨allowed_word _ (by decide), allowed_name _ _, allowed_word _ (by decide),
      allowed_joined comma fun c _ => ?_, allowed_word _ (by decide),
      allowed_joined comma fun _ _ => ?_, allowed_word _ (by decide), trivial⟩
    · exact List.forall_mem_singleton.2 (allowed_name _ c)
    · exact List.forall_mem_singleton.2 (allowed_mark _)
  | update table row =>
    simp only [pieces, List.forall_mem_cons]
    refine ⟨allowed_word _ (by decide), allowed_name _ _, allowed_word _ (by decide),
      allowed_joined comma fun c _ => ?_⟩
    simp only [List.forall_mem_cons, List.not_mem_nil, false_implies, implies_true]
    exact ⟨allowed_name _ c, allowed_word _ (by decide), allowed_mark _, trivial⟩
  | deleteFrom table =>
    simp only [pieces, List.forall_mem_cons, List.not_mem_nil, false_implies, implies_true]
    exact ⟨allowed_word _ (by decide), allowed_name _ _, trivial⟩
  | innerJoin table tableColumn column =>
    simp only [pieces, List.forall_mem_cons, List.not_mem_nil, false_implies, implies_true]
    exact ⟨allowed_word _ (by decide), allowed_name _ _, allowed_word _ (by decide),
      allowed_verbatim List.mem_cons_self, allowed_word _ (by decide),
      allowed_verbatim (List.mem_cons_of_mem _ List.mem_cons_self), trivial⟩
  | filter c =>
    simp only [pieces, List.forall_mem_cons]
    exact ⟨allowed_word _ (by decide), allowed_condition List.mem_cons_self⟩
  | filterAll conditions =>
    simp only [pieces, List.forall_mem_cons]
    exact ⟨allowed_word _ (by decide), allowed_joined (by decide) fun c hc =>
      allowed_condition (List.mem_map_of_mem hc)⟩
  | returning columns =>
    simp only [pieces, List.forall_mem_cons]
    refine ⟨allowed_word _ (by decide), allowed_joined comma fun c hc => ?_⟩
    exact List.forall_mem_singleton.2 (allowed_verbatim hc)
  | unknown => simp [pieces]

/-- The text of a clause has one mark for each of its parameters. -/
theorem count_mark_pieces (c : Clause) : c.pieces.count mark = c.params.length := by
  have hcolumns (row : Row) : row.columns.length = row.values.length := by
    simp [Row.columns, Row.values]
  have hcondition (d : Condition) : d.pieces.count mark = 1 := by
    simp [Condition.pieces]
  cases c with
  | select table columns =>
    simp [pieces, params, count_mark_joined, List.count_flatten, Function.comp_def]
  | insertInto table row =>
    simp [pieces, params, count_mark_joined, List.count_flatten, Function.comp_def, hcolumns]
  | update table row =>
    simp [pieces, params, count_mark_joined, List.count_flatten, Function.comp_def, hcolumns]
  | deleteFrom table => simp [pieces, params]
  | innerJoin table tableColumn column => simp [pieces, params]
  | filter c => simp [pieces, params, hcondition]
  | filterAll conditions =>
    simp [pieces, params, count_mark_joined, List.count_flatten, Function.comp_def, hcondition]
  | returning columns => simp [pieces, params, count_mark_joined, List.count_flatten, Function.comp_def]
  | unknown => rfl

end Clause

end BoundSql
