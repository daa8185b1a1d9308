import BoundSql.Proofs.Statement.Assignment
import BoundSql.Proofs.Statement.Placeholders
import Mathlib.Data.List.Chain

/-!
# Names cannot be closed from inside

A name between accents is read back, whatever accents it has itself, unless another accent follows
the one that closes it (`Name.readQuoted?_quote_append`).  In a statement none does: after each name
of a clause comes a word (`Clause.isChain_pieces`), which has no accents, or the clause ends, and then
the statement ends or a blank comes before the next clause.  So every name of every clause is read
back from where it stands in the statement (`Statement.names_closed`).
-/

namespace BoundSql

/-! ## Reading a quoted name -/

namespace Name

theorem toList_quote_of_ne {n : String} (h : n ≠ "*") :
    (quote n).toList = accent :: body n.toList ++ [accent] := by
  rw [quote, if_neg h, String.toList_ofList]

theorem readQuoted?_quote_append {n : String} (h : n ≠ "*") {r : List Char}
    (hr : r.head? ≠ some accent) : readQuoted? ((quote n).toList ++ r) = some (n, r) := by
  have opened : (quote n).toList ++ r = accent :: (body n.toList ++ accent :: r) := by
    simp [toList_quote_of_ne h]
  rw [opened]
  exact readQuoted?_accent_body n hr

theorem length_le_length_body (s : List Char) : s.length ≤ (body s).length := by
  induction s with
  | nil => exact Nat.le_refl 0
  | cons c s ih =>
    unfold body
    split_ifs
    · simp only [List.length_cons]
      omega
    · simpa using ih

/-- Only one name is written without accents. -/
theorem quote_eq_self_iff {n : String} : quote n = n ↔ n = "*" := by
  constructor
  · intro h
    by_contra ne
    have longer := congrArg (fun s => s.toList.length) h
    have inside := length_le_length_body n.toList
    simp only [toList_quote_of_ne ne, List.length_append, List.length_cons, List.length_nil]
      at longer
    omega
  · rintro rfl
    rfl

theorem quote_injective : Function.Injective quote := by
  have nothing : ([] : List Char).head? ≠ some accent := nofun
  intro a b h
  have same : quoted a.toList ++ [] = quoted b.toList ++ [] := by
    rw [← toList_quote, ← toList_quote, h]
  exact (quoted_append_inj nothing nothing same).1

end Name

/-! ## What comes after a name -/

namespace Piece

open Clause (vocabulary)

/-- The name that a piece is. -/
def names : Piece → List String
  | .name s => [s]
  | _ => []

/-- A piece that is a name has a word after it. -/
def WordAfterName (p q : Piece) : Prop := ∀ n, p = .name n → ∃ w ∈ vocabulary, q = .word w

theorem isChain_word_cons {w : String} {ps : List Piece} (h : ps.IsChain WordAfterName) :
    (word w :: ps).IsChain WordAfterName :=
  List.isChain_cons.2 ⟨fun _ _ => nofun, h⟩

theorem isChain_name_word {n w : String} {ps : List Piece} (hw : w ∈ vocabulary)
    (h : ps.IsChain WordAfterName) : (name n :: word w :: ps).IsChain WordAfterName :=
  List.isChain_cons_cons.2 ⟨fun _ _ => ⟨w, hw, rfl⟩, isChain_word_cons h⟩

theorem isChain_append_word {w : String} {ps qs : List Piece} (hw : w ∈ vocabulary)
    (hp : ps.IsChain WordAfterName) (hq : qs.IsChain WordAfterName) :
    (ps ++ word w :: qs).IsChain WordAfterName := by
  refine List.isChain_append.2 ⟨hp, isChain_word_cons hq, ?_⟩
  intro p _ q hq n _
  exact ⟨w, hw, (Option.some.inj hq).symm⟩

/-- The words between groups come after the names at their ends. -/
theorem isChain_joined {sep : String} (hsep : sep ∈ vocabulary) {groups : List (List Piece)}
    (h : ∀ g ∈ groups, g.IsChain WordAfterName) : (joined sep groups).IsChain WordAfterName := by
  induction groups with
  | nil => exact .nil
  | cons g gs ih =>
    rw [List.forall_mem_cons] at h
    cases gs with
    | nil =>
      rw [joined_singleton]
      exact h.1
    | cons k ks =>
      rw [joined_cons_cons]
      exact isChain_append_word hsep h.1 (ih h.2)

theorem isChain_joined_map {α : Type} {sep : String} (hsep : sep ∈ vocabulary) (xs : List α)
    {f : α → List Piece} (h : ∀ x, (f x).IsChain WordAfterName) :
    (joined sep (xs.map f)).IsChain WordAfterName :=
  isChain_joined hsep (List.forall_mem_map.2 fun x _ => h x)

end Piece

namespace Clause

open Piece

theorem ne_nil_of_mem_vocabulary : ∀ w ∈ vocabulary, w.toList ≠ [] := by
  decide

/-- No text begins with an accent that begins with a word. -/
theorem head?_word_append_ne {w : String} (hw : w ∈ vocabulary) (s : List Char) :
    (w.toList ++ s).head? ≠ some Name.accent := by
  obtain ⟨c, t, hct⟩ := List.exists_cons_of_ne_nil (ne_nil_of_mem_vocabulary w hw)
  have outside := (not_mem_vocabulary w hw).1
  rw [hct, List.mem_cons, not_or] at outside
  rw [hct]
  exact fun e => outside.1 (Option.some.inj e).symm

/-- In a clause a word comes after every name that does not end it. -/
theorem isChain_pieces (c : Clause) : c.pieces.IsChain WordAfterName := by
  have comma : "," ∈ vocabulary := by decide
  have single (p : Piece) : [p].IsChain WordAfterName := .singleton p
  have condition (d : Condition) : d.pieces.IsChain WordAfterName := by
    refine List.isChain_cons_cons.2 ⟨nofun, isChain_word_cons ?_⟩
    exact isChain_word_cons (isChain_word_cons (single _))
  cases c with
  | select table columns =>
    refine isChain_word_cons (isChain_append_word (by decide) ?_ (single _))
    exact isChain_joined_map comma columns fun _ => single _
  | insertInto table row =>
    refine isChain_word_cons (isChain_name_word (by decide) ?_)
    refine isChain_append_word (by decide) ?_ (isChain_append_word (by decide) ?_ .nil)
    · exact isChain_joined_map comma row.columns fun _ => single _
    · exact isChain_joined_map comma row.columns fun _ => single _
  | update table row =>
    refine isChain_word_cons (isChain_name_word (by decide) ?_)
    exact isChain_joined_map comma row.columns fun _ => isChain_name_word (by decide) (single _)
  | deleteFrom table => exact isChain_word_cons (single _)
  | innerJoin table tableColumn column =>
    refine isChain_word_cons (isChain_name_word (by decide) ?_)
    exact List.isChain_cons_cons.2 ⟨nofun, isChain_word_cons (single _)⟩
  | filter d => exact isChain_word_cons (condition d)
  | filterAll conditions =>
    exact isChain_word_cons (isChain_joined_map (by decide) conditions condition)
  | returning columns =>
    exact isChain_word_cons (isChain_joined_map comma columns fun _ => single _)
  | unknown => exact .nil

/-- The names of a clause are written in order, and no others are. -/
theorem flatMap_names_pieces (c : Clause) : c.pieces.flatMap Piece.names = c.names := by
  have unnamed {α : Type} (sep : String) (xs : List α) {g : α → List Piece}
      (each : ∀ x, (g x).flatMap Piece.names = []) :
      (joined sep (xs.map g)).flatMap Piece.names = [] :=
    flatMap_joined_map_eq_nil rfl xs each
  have named (columns : List String) {g : String → List Piece}
      (each : ∀ c, (g c).flatMap Piece.names = [c]) :
      (joined "," (columns.map g)).flatMap Piece.names = columns := by
    rw [flatMap_joined_map rfl columns each, List.map_id']
  cases c with
  | select table columns =>
    rw [pieces, List.flatMap_cons, List.flatMap_append, unnamed "," columns fun _ => rfl]
    rfl
  | insertInto table row =>
    simp only [pieces, List.flatMap_cons, List.flatMap_append, List.flatMap_nil,
      named row.columns (g := fun c => [name c]) fun _ => rfl,
      unnamed "," row.columns (g := fun _ => [mark]) fun _ => rfl,
      Piece.names, names, List.nil_append, List.append_nil, List.singleton_append]
  | update table row =>
    rw [pieces, List.flatMap_cons, List.flatMap_cons, List.flatMap_cons,
      named row.columns fun _ => rfl]
    rfl
  | deleteFrom table => rfl
  | innerJoin table tableColumn column => rfl
  | filter d => rfl
  | filterAll conditions => exact unnamed " AND " conditions fun _ => rfl
  | returning columns => exact unnamed "," columns fun _ => rfl
  | unknown => rfl

/-- What comes after a name in a clause, and after the clause in a statement, is no accent. -/
theorem head?_after_name_ne {c : Clause} {before after : List Piece} {n : String}
    (h : c.pieces = before ++ name n :: after) (es : List Clause) :
    (Piece.text after ++ tailText es).head? ≠ some Name.accent := by
  have chain : (name n :: after).IsChain WordAfterName := by
    have all := c.isChain_pieces
    rw [h] at all
    exact all.right_of_append
  cases after with
  | nil => exact head?_tailText_ne es (by decide)
  | cons p ps =>
    obtain ⟨w, hw, rfl⟩ := (List.isChain_cons_cons.1 chain).1 n rfl
    rw [Piece.text_cons, List.append_assoc]
    exact head?_word_append_ne hw _

/-- A name of a clause stands in the statement between what comes before and after it. -/
theorem listText_around_name {c : Clause} {before after : List Piece} {n : String}
    (h : c.pieces = before ++ name n :: after) (ds es : List Clause) :
    listText (ds ++ c :: es) = lead ds ++ Piece.text before ++ (Name.quote n).toList ++
      (Piece.text after ++ tailText es) := by
  have written : c.text = Piece.text before ++ ((Name.quote n).toList ++ Piece.text after) := by
    rw [text, h, Piece.text_append, Piece.text_cons, chars, Name.toList_quote]
  rw [listText_eq_lead_append, written]
  simp only [List.append_assoc]

end Clause

namespace Statement

open Clause (lead tailText)

/-- A name other than `*` is read back from its quoted form, with all that follows it, unless an accent
follows; `*` alone is written as it is, and no two names are written alike.  In the statement of any
list of clauses, no accent follows any name of any clause. -/
theorem names_closed :
    (∀ n : String, n ≠ "*" → ∀ r : List Char, r.head? ≠ some Name.accent →
      Name.readQuoted? ((Name.quote n).toList ++ r) = some (n, r)) ∧
    (∀ n, Name.quote n = n ↔ n = "*") ∧ Function.Injective Name.quote ∧
    ∀ c : Clause, c.pieces.flatMap Piece.names = c.names ∧
      ∀ ds es s, ofClauses (ds ++ c :: es) = .ok s →
        ∀ before n after, c.pieces = before ++ Piece.name n :: after →
          s.sql.toList = lead ds ++ Piece.text before ++ (Name.quote n).toList ++
            (Piece.text after ++ tailText es) ∧
          (Piece.text after ++ tailText es).head? ≠ some Name.accent := by
  refine ⟨fun n hn r hr => Name.readQuoted?_quote_append hn hr, fun n => Name.quote_eq_self_iff,
    Name.quote_injective, fun c => ⟨c.flatMap_names_pieces, fun ds es s hs before n after h => ?_⟩⟩
  obtain ⟨-, rfl⟩ := ofClauses_eq_ok_iff.1 hs
  refine ⟨?_, Clause.head?_after_name_ne h es⟩
  rw [written, String.toList_ofList]
  exact Clause.listText_around_name h ds es

/-- A column of two accents, after a table whose name is an accent and before the column `*`. -/
theorem names_closed_column_of_accents :
    let cs := [.insertInto "`" (.ofList [("``", .null), ("*", .null)]), .returning ["`"]]
    let after := ",*) VALUES (?,?) RETURNING `".toList
    ofClauses cs = .ok ⟨"INSERT INTO ```` (``````,*) VALUES (?,?) RETURNING `", [.null, .null]⟩ ∧
      "INSERT INTO ```` (``````,*) VALUES (?,?) RETURNING `".toList =
        "INSERT INTO ```` (".toList ++ (Name.quote "``").toList ++ after ∧
      after.head? ≠ some Name.accent ∧ "``" ≠ "*" ∧
      Name.readQuoted? ((Name.quote "``").toList ++ after) = some ("``", after) := by
  intro cs after
  have compiled : ofClauses cs =
      .ok ⟨"INSERT INTO ```` (``````,*) VALUES (?,?) RETURNING `", [.null, .null]⟩ := by decide
  obtain ⟨read, -, -, places⟩ := names_closed
  obtain ⟨text, apart⟩ := (places _).2 [] [.returning ["`"]] _ compiled
    [.word "INSERT INTO ", .name "`", .word " ("] "``"
    [.word ",", .name "*", .word ") VALUES (", .mark, .word ",", .mark, .word ")"] rfl
  have rest : Piece.text [.word ",", .name "*", .word ") VALUES (", .mark, .word ",", .mark,
      .word ")"] ++ tailText [.returning ["`"]] = after := by decide
  have front : lead [] ++ Piece.text [.word "INSERT INTO ", .name "`", .word " ("] =
      "INSERT INTO ```` (".toList := by decide
  rw [rest] at text apart
  rw [front] at text
  exact ⟨compiled, text, apart, by decide, read "``" (by decide) after apart⟩

end Statement

end BoundSql
