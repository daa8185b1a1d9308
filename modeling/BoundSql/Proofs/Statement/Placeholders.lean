import BoundSql.Proofs.Statement.Marks

/-!
# Counting placeholders

Whoever counts the question marks of a statement counts its placeholders, one for each parameter,
and with them the question marks of the names and texts that its clauses hand on.  Each of these is
written once (`Clause.strings_perm`), quoting a name neither adds a question mark nor takes one
away, and the words between them have none (`Clause.count_mark_text`).  So the count is the number
of parameters if and only if no name and no text has a question mark
(`Statement.placeholderCount_exact`).
-/

namespace BoundSql

/-! ## Question marks of strings -/

/-- The number of question marks in strings. -/
def Text.questionMarks (strings : List String) : Nat :=
  (strings.map fun s => s.toList.count '?').sum

theorem Text.questionMarks_append (strings more : List String) :
    questionMarks (strings ++ more) = questionMarks strings + questionMarks more := by
  rw [questionMarks, List.map_append, List.sum_append]
  rfl

theorem Text.questionMarks_perm {strings strings' : List String} (h : strings.Perm strings') :
    questionMarks strings = questionMarks strings' :=
  (h.map _).sum_nat

theorem Text.questionMarks_eq_zero_iff {strings : List String} :
    questionMarks strings = 0 ↔ ∀ s ∈ strings, '?' ∉ s.toList := by
  rw [questionMarks, List.sum_eq_zero_iff_forall_eq_nat, List.forall_mem_map]
  simp only [List.count_eq_zero]

/-- The accents of a quoted name are no question marks. -/
theorem Name.count_mark_quoted (name : List Char) : (quoted name).count '?' = name.count '?' := by
  have all := Text.marks_add_marks_not false (quoted name)
  rwa [Text.marks_false_quoted, Nat.zero_add, Bool.not_false, Text.marks_true_quoted,
    eq_comm] at all

/-! ## Clauses -/

namespace Piece

/-- The strings that a piece hands on, be it as a name or as it stands. -/
def strings : Piece → List String
  | .name s => [s]
  | .verbatim s => [s]
  | _ => []

/-- What the members of groups hand on, when the word between them hands on nothing. -/
theorem flatMap_joined {β : Type} {f : Piece → List β} {sep : String} (h : f (word sep) = [])
    (groups : List (List Piece)) :
    (joined sep groups).flatMap f = groups.flatMap fun g => g.flatMap f := by
  induction groups with
  | nil => rfl
  | cons g gs ih =>
    cases gs with
    | nil => rw [joined_singleton, List.flatMap_singleton]
    | cons k ks =>
      rw [joined_cons_cons, List.flatMap_append, List.flatMap_cons, h, List.nil_append, ih]
      rfl

/-- Groups of which each hands on one string. -/
theorem flatMap_joined_map {α β : Type} {f : Piece → List β} {sep : String} (h : f (word sep) = [])
    (xs : List α) {g : α → List Piece} {k : α → β} (each : ∀ x, (g x).flatMap f = [k x]) :
    (joined sep (xs.map g)).flatMap f = xs.map k := by
  rw [flatMap_joined h, List.flatMap_map, List.map_eq_flatMap]
  exact congrArg (List.flatMap · xs) (funext each)

/-- Groups that hand on nothing. -/
theorem flatMap_joined_map_eq_nil {α β : Type} {f : Piece → List β} {sep : String}
    (h : f (word sep) = []) (xs : List α) {g : α → List Piece} (each : ∀ x, (g x).flatMap f = []) :
    (joined sep (xs.map g)).flatMap f = [] := by
  rw [flatMap_joined h, List.flatMap_map]
  exact List.flatMap_eq_nil_iff.2 fun x _ => each x

end Piece

namespace Clause

open Piece Text

/-- The names of a clause, which are quoted: its table and the columns that it writes. -/
def names : Clause → List String
  | .select table _ => [table]
  | .insertInto table row => table :: row.columns
  | .update table row => table :: row.columns
  | .deleteFrom table => [table]
  | .innerJoin table _ _ => [table]
  | _ => []

/-- Every name and every text of a clause is written once, and no other string is. -/
theorem strings_perm (c : Clause) : (c.pieces.flatMap strings).Perm (c.names ++ c.texts) := by
  have each (columns : List String) {f : String → List Piece}
      (h : ∀ c, (f c).flatMap strings = [c]) :
      (joined "," (columns.map f)).flatMap strings = columns := by
    rw [flatMap_joined_map rfl columns h, List.map_id']
  cases c with
  | select table columns =>
    have written : (select table columns).pieces.flatMap strings = columns ++ [table] := by
      rw [pieces, List.flatMap_cons, List.flatMap_append, each columns fun _ => rfl]
      rfl
    rw [written]
    exact List.perm_append_comm
  | insertInto table row =>
    have marks : (joined "," (row.columns.map fun _ => [mark])).flatMap strings = [] :=
      flatMap_joined_map_eq_nil rfl row.columns fun _ => rfl
    have columns : (joined "," (row.columns.map fun c => [name c])).flatMap strings = row.columns :=
      each row.columns fun _ => rfl
    refine .of_eq ?_
    simp only [pieces, List.flatMap_cons, List.flatMap_append, List.flatMap_nil, marks, columns,
      strings, names, texts, List.nil_append, List.append_nil, List.singleton_append]
  | update table row =>
    refine .of_eq ?_
    rw [pieces, List.flatMap_cons, List.flatMap_cons, List.flatMap_cons,
      each row.columns fun _ => rfl]
    exact (List.append_nil _).symm
  | deleteFrom table => exact .rfl
  | innerJoin table tableColumn column => exact .rfl
  | filter c => exact .rfl
  | filterAll conditions =>
    exact .of_eq (flatMap_joined_map rfl conditions fun _ => rfl)
  | returning columns => exact .of_eq (each columns fun _ => rfl)
  | unknown => exact .rfl

/-- A piece of a clause has the question marks of the string that it hands on, and a mark is one
itself. -/
theorem count_mark_chars {c : Clause} {p : Piece} (h : c.Allowed p) :
    p.chars.count '?' = [p].count mark + questionMarks p.strings := by
  rcases h with ⟨w, hw, rfl⟩ | ⟨n, rfl⟩ | ⟨t, -, rfl⟩ | rfl
  · exact List.count_eq_zero.2 (not_mem_vocabulary w hw).2
  · have single : questionMarks [n] = n.toList.count '?' := Nat.add_zero _
    rw [chars, Name.count_mark_quoted, ← single]
    exact (Nat.zero_add _).symm
  · have single : questionMarks [t] = t.toList.count '?' := Nat.add_zero _
    rw [chars, ← single]
    exact (Nat.zero_add _).symm
  · rfl

theorem count_mark_text_pieces {c : Clause} {ps : List Piece} (hps : ∀ p ∈ ps, c.Allowed p) :
    (Piece.text ps).count '?' = ps.count mark + questionMarks (ps.flatMap strings) := by
  induction ps with
  | nil => rfl
  | cons p ps ih =>
    rw [List.forall_mem_cons] at hps
    have both : (p :: ps).count mark = [p].count mark + ps.count mark := by
      rw [← List.count_append, List.singleton_append]
    rw [text_cons, List.count_append, count_mark_chars hps.1, ih hps.2, both, List.flatMap_cons,
      questionMarks_append]
    omega

/-- The question marks of a clause are one for each parameter and those of its names and texts. -/
theorem count_mark_text (c : Clause) :
    c.text.count '?' = c.params.length + questionMarks (c.names ++ c.texts) := by
  rw [text, count_mark_text_pieces c.allowed_of_mem_pieces, count_mark_pieces,
    questionMarks_perm c.strings_perm]

/-! ## Lists of clauses -/

theorem count_mark_tailText (cs : List Clause) :
    (tailText cs).count '?' =
      (listParams cs).length + questionMarks (cs.flatMap fun c => c.names ++ c.texts) := by
  induction cs with
  | nil => rfl
  | cons c cs ih =>
    have blank : ' ' ≠ '?' := by decide
    rw [tailText, List.count_cons_of_ne blank, List.count_append, count_mark_text, ih,
      listParams_cons, List.length_append, List.flatMap_cons,
      questionMarks_append (c.names ++ c.texts)]
    omega

theorem count_mark_listText (cs : List Clause) :
    (listText cs).count '?' =
      (listParams cs).length + questionMarks (cs.flatMap fun c => c.names ++ c.texts) := by
  have blank : ' ' ≠ '?' := by decide
  rw [← count_mark_tailText]
  cases cs with
  | nil => rfl
  | cons c cs => rw [tailText, List.count_cons_of_ne blank, listText]

end Clause

namespace Statement

open Text

/-- Counting the question marks of a statement counts its parameters and the question marks of the
names and texts of its clauses, so it counts the parameters if and only if these have none. -/
theorem placeholderCount_exact {cs : List Clause} {s : Statement} (hs : ofClauses cs = .ok s) :
    s.placeholderCount =
        s.params.length + questionMarks (cs.flatMap fun c => c.names ++ c.texts) ∧
      (s.placeholderCount = s.params.length ↔
        ∀ c ∈ cs, (∀ n ∈ c.names, '?' ∉ n.toList) ∧ ∀ t ∈ c.texts, '?' ∉ t.toList) := by
  obtain ⟨-, rfl⟩ := ofClauses_eq_ok_iff.1 hs
  have counted : (written cs).placeholderCount = (written cs).params.length +
      questionMarks (cs.flatMap fun c => c.names ++ c.texts) := by
    rw [placeholderCount, written, String.toList_ofList, Clause.count_mark_listText]
  refine ⟨counted, ?_⟩
  rw [counted, Nat.add_eq_left, questionMarks_eq_zero_iff, List.forall_mem_flatMap]
  simp only [List.forall_mem_append]

/-- One parameter and three question marks beside its placeholder, one of them in a name. -/
theorem placeholderCount_exact_marks_in_name_and_texts :
    ofClauses [.select "a`?" ["?", "b"], .filter ⟨"c?", .equal, .text "?"⟩] =
        .ok ⟨"SELECT ?,b FROM `a``?` WHERE c? = ?", [.text "?"]⟩ ∧
      placeholderCount ⟨"SELECT ?,b FROM `a``?` WHERE c? = ?", [.text "?"]⟩ = 1 + 3 := by
  have hs : ofClauses [.select "a`?" ["?", "b"], .filter ⟨"c?", .equal, .text "?"⟩] =
      .ok ⟨"SELECT ?,b FROM `a``?` WHERE c? = ?", [.text "?"]⟩ := by decide
  exact ⟨hs, (placeholderCount_exact hs).1⟩

end Statement

end BoundSql
