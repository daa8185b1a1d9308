import BoundSql.Proofs.Statement.Written
import Mathlib.Algebra.Ring.Parity
import Mathlib.Data.List.Induction

/-!
# Marks and parameters

A question mark binds a value when it stands outside accents, that is, when an even number of
accents precede it.  `Text.bindPositions` lists the positions of these marks.  A text that is read
from the left is in one of two states, inside accents or outside (`Text.inside`), and `Text.marks`
counts the marks along the way, so both are additive (`inside_append`, `marks_append`).

The invariant is `Text.Binds n s`: the text `s` closes all accents and has `n` marks outside of
them.  It holds of a quoted name with `n = 0` whatever the name is (`binds_quoted`), it is additive,
and so every clause whose other texts have neither accents nor marks binds as many values as it
has parameters (`binds_text`).
-/

namespace BoundSql

namespace Text

/-! ## Marks outside accents -/

/-- A question mark stands at position `i`, and an even number of accents before it. -/
def IsBindPosition (s : List Char) (i : Nat) : Prop :=
  s[i]? = some '?' ∧ Even ((s.take i).count Name.accent)

instance (s : List Char) : DecidablePred (IsBindPosition s) := fun _ =>
  inferInstanceAs (Decidable (_ ∧ _))

/-- The positions of the question marks outside accents, in order. -/
def bindPositions (s : List Char) : List Nat :=
  (List.range s.length).filter fun i => IsBindPosition s i

theorem lt_length_of_mem_bindPositions {s : List Char} {i : Nat} (h : i ∈ bindPositions s) :
    i < s.length :=
  List.mem_range.1 (List.mem_of_mem_filter h)

theorem isBindPosition_append {s : List Char} (t : List Char) {i : Nat} (h : i < s.length) :
    IsBindPosition (s ++ t) i ↔ IsBindPosition s i := by
  unfold IsBindPosition
  rw [List.getElem?_append_left h, List.take_append_of_le_length (Nat.le_of_lt h)]

/-- What is appended to a text leaves its bind positions and adds others after the text. -/
theorem bindPositions_append (s t : List Char) :
    ∃ more, bindPositions (s ++ t) = bindPositions s ++ more ∧ ∀ i ∈ more, s.length ≤ i := by
  refine ⟨((List.range t.length).map (s.length + ·)).filter fun i => IsBindPosition (s ++ t) i,
    ?_, ?_⟩
  · unfold bindPositions
    rw [List.length_append, List.range_add, List.filter_append]
    congr 1
    apply List.filter_congr
    intro i hi
    exact decide_eq_decide.2 (isBindPosition_append t (List.mem_range.1 hi))
  · intro i hi
    obtain ⟨j, -, rfl⟩ := List.mem_map.1 (List.mem_of_mem_filter hi)
    exact Nat.le_add_right _ _

theorem bindPositions_concat (s : List Char) (c : Char) :
    bindPositions (s ++ [c]) =
      bindPositions s ++ if c = '?' ∧ Even (s.count Name.accent) then [s.length] else [] := by
  have last : IsBindPosition (s ++ [c]) s.length ↔ c = '?' ∧ Even (s.count Name.accent) := by
    unfold IsBindPosition
    rw [List.getElem?_concat_length, List.take_left', Option.some.injEq]
    rfl
  unfold bindPositions
  rw [List.length_append, List.length_singleton, List.range_succ, List.filter_append]
  congr 1
  · apply List.filter_congr
    intro i hi
    exact decide_eq_decide.2 (isBindPosition_append [c] (List.mem_range.1 hi))
  · rw [List.filter_singleton]
    split_ifs <;> simp_all

/-! ## Reading a text from the left -/

/-- The state after a character: an accent opens or closes. -/
def toggle (q : Bool) (c : Char) : Bool := if c = Name.accent then !q else q

/-- Whether the end of a text is inside accents, when its beginning is in the state `q`. -/
def inside (q : Bool) (s : List Char) : Bool := s.foldl toggle q

/-- The number of question marks outside accents in a text that begins in the state `q`. -/
def marks : Bool → List Char → Nat
  | _, [] => 0
  | q, c :: s => (if c = '?' ∧ q = false then 1 else 0) + marks (toggle q c) s

theorem inside_append (q : Bool) (s t : List Char) :
    inside q (s ++ t) = inside (inside q s) t :=
  List.foldl_append

theorem inside_cons (q : Bool) (c : Char) (s : List Char) :
    inside q (c :: s) = inside (toggle q c) s := rfl

theorem marks_append (q : Bool) (s t : List Char) :
    marks q (s ++ t) = marks q s + marks (inside q s) t := by
  induction s generalizing q with
  | nil => simp [marks, inside]
  | cons c s ih => simp only [List.cons_append, marks, ih, inside_cons, Nat.add_assoc]

theorem inside_eq_false_iff (s : List Char) :
    inside false s = false ↔ Even (s.count Name.accent) := by
  induction s using List.reverseRecOn with
  | nil => simp [inside]
  | append_singleton s c ih =>
    rw [inside_append, List.count_append, Nat.even_add, ← ih]
    by_cases hc : c = Name.accent
    · simp [inside, toggle, hc]
    · simp [inside, toggle, hc]

theorem toggle_not (q : Bool) (c : Char) : toggle (!q) c = !toggle q c := by
  unfold toggle
  split_ifs <;> rfl

/-- Each question mark is met in one of the two states. -/
theorem marks_add_marks_not (q : Bool) (s : List Char) :
    marks q s + marks (!q) s = s.count '?' := by
  induction s generalizing q with
  | nil => rfl
  | cons c s ih =>
    have here : (if c = '?' ∧ q = false then 1 else 0) + (if c = '?' ∧ (!q) = false then 1 else 0) =
        if c = '?' then 1 else 0 := by
      cases q <;> simp
    have rest := ih (toggle q c)
    rw [marks, marks, toggle_not, List.count_cons]
    simp only [beq_iff_eq]
    omega

theorem inside_not (q : Bool) (s : List Char) : inside (!q) s = !inside q s := by
  induction s generalizing q with
  | nil => rfl
  | cons c s ih => rw [inside_cons, inside_cons, toggle_not, ih]

theorem marks_of_not_mem {s : List Char} (hm : '?' ∉ s) (q : Bool) : marks q s = 0 := by
  have h := marks_add_marks_not q s
  rw [List.count_eq_zero.2 hm] at h
  omega

theorem inside_of_not_mem {s : List Char} (ha : Name.accent ∉ s) (q : Bool) : inside q s = q := by
  induction s with
  | nil => rfl
  | cons c s ih =>
    simp only [List.mem_cons, not_or] at ha
    rw [inside_cons, toggle, if_neg (Ne.symm ha.1), ih ha.2]

theorem inside_inside (q : Bool) (s : List Char) : inside (inside q s) s = q := by
  have h := inside_not q s
  cases hq : inside q s with
  | false => cases q <;> simp_all
  | true => cases q <;> simp_all

theorem marks_append_of_not_mem {s : List Char} (ha : Name.accent ∉ s) (hm : '?' ∉ s) (q : Bool)
    (t : List Char) : marks q (s ++ t) = marks q t := by
  rw [marks_append, marks_of_not_mem hm, inside_of_not_mem ha, Nat.zero_add]

/-- The marks met on the way are those at the bind positions. -/
theorem length_bindPositions (s : List Char) : (bindPositions s).length = marks false s := by
  induction s using List.reverseRecOn with
  | nil => rfl
  | append_singleton s c ih =>
    rw [bindPositions_concat, List.length_append, ih, marks_append]
    simp only [← inside_eq_false_iff, marks, Nat.add_zero]
    split_ifs <;> rfl

theorem bindPositions_eq_nil_iff (s : List Char) : bindPositions s = [] ↔ marks false s = 0 := by
  rw [← length_bindPositions, List.length_eq_zero_iff]

theorem odd_count_accent_iff (s : List Char) :
    Odd (s.count Name.accent) ↔ inside false s = true := by
  rw [← Nat.not_even_iff_odd, ← inside_eq_false_iff, Bool.not_eq_false]

/-! ## Texts that close their accents -/

/-- The text closes all accents that it opens, and `n` question marks stand outside of them. -/
structure Binds (n : Nat) (s : List Char) : Prop where
  closed : inside false s = false
  marks_eq : marks false s = n

theorem Binds.append {m n : Nat} {s t : List Char} (hs : Binds m s) (ht : Binds n t) :
    Binds (m + n) (s ++ t) :=
  ⟨by rw [inside_append, hs.closed, ht.closed],
    by rw [marks_append, hs.marks_eq, hs.closed, ht.marks_eq]⟩

theorem Binds.length_bindPositions {n : Nat} {s : List Char} (h : Binds n s) :
    (bindPositions s).length = n := by
  rw [Text.length_bindPositions, h.marks_eq]

/-- In a text that begins with `s` and `t`, the marks after those of `s` are in `t`. -/
theorem Binds.getElem?_bindPositions {m n k : Nat} {s t : List Char} (hs : Binds m s)
    (ht : Binds n t) (u : List Char) (hk : m ≤ k) (hk' : k < m + n) :
    ∃ i, (bindPositions (s ++ t ++ u))[k]? = some i ∧ s.length ≤ i ∧ i < s.length + t.length := by
  obtain ⟨later, hlater, -⟩ := bindPositions_append (s ++ t) u
  obtain ⟨inner, hinner, hle⟩ := bindPositions_append s t
  have hlen : k < (bindPositions (s ++ t)).length := by
    rw [(hs.append ht).length_bindPositions]
    exact hk'
  have hlen' : (bindPositions s).length ≤ k := by
    rw [hs.length_bindPositions]
    exact hk
  refine ⟨(bindPositions (s ++ t))[k], ?_, ?_, ?_⟩
  · rw [hlater, List.getElem?_append_left hlen, List.getElem?_eq_getElem hlen]
  · apply hle
    simp only [hinner, List.getElem_append_right hlen']
    exact List.getElem_mem _
  · rw [← List.length_append]
    exact lt_length_of_mem_bindPositions (List.getElem_mem hlen)

theorem binds_nil : Binds 0 [] := ⟨rfl, rfl⟩

theorem binds_mark : Binds 1 ['?'] := ⟨rfl, rfl⟩

theorem binds_of_not_mem {s : List Char} (ha : Name.accent ∉ s) (hm : '?' ∉ s) : Binds 0 s :=
  ⟨inside_of_not_mem ha false, marks_of_not_mem hm false⟩

/-! ### Quoted names -/

/-- The accents of a name, being doubled, close nothing. -/
theorem inside_body (q : Bool) (s : List Char) : inside q (Name.body s) = q := by
  induction s with
  | nil => rfl
  | cons c s ih =>
    unfold Name.body
    by_cases hc : c = Name.accent
    · simp [hc, inside_cons, toggle, ih]
    · simp [hc, inside_cons, toggle, ih]

theorem marks_true_body (s : List Char) : marks true (Name.body s) = 0 := by
  have accent_ne : Name.accent ≠ '?' := by decide
  induction s with
  | nil => rfl
  | cons c s ih =>
    unfold Name.body
    by_cases hc : c = Name.accent
    · simp [hc, marks, toggle, ih, accent_ne]
    · simp [hc, marks, toggle, ih]

theorem count_mark_body (s : List Char) : (Name.body s).count '?' = s.count '?' := by
  have accent_ne : Name.accent ≠ '?' := by decide
  induction s with
  | nil => rfl
  | cons c s ih =>
    unfold Name.body
    split_ifs with hc
    · rw [hc, List.count_cons_of_ne accent_ne, List.count_cons_of_ne accent_ne,
        List.count_cons_of_ne accent_ne, ih]
    · rw [List.count_cons, List.count_cons, ih]

theorem inside_quoted (q : Bool) (name : List Char) : inside q (Name.quoted name) = q := by
  unfold Name.quoted
  split_ifs with h
  · rw [h]
    exact inside_of_not_mem (by decide) q
  · rw [List.cons_append, inside_cons, inside_append, inside_body]
    cases q <;> rfl

/-- Outside accents, quoting a name hides all of its marks. -/
theorem marks_false_quoted (name : List Char) : marks false (Name.quoted name) = 0 := by
  unfold Name.quoted
  split_ifs with h
  · rw [h]
    rfl
  · have opens : toggle false Name.accent = true := rfl
    rw [List.cons_append, marks, marks_append, inside_body, opens, marks_true_body]
    rfl

/-- Inside accents, quoting a name exposes all of its marks. -/
theorem marks_true_quoted (name : List Char) : marks true (Name.quoted name) = name.count '?' := by
  have all := marks_add_marks_not false (Name.quoted name)
  rw [marks_false_quoted, Nat.zero_add] at all
  rw [show true = !false from rfl, all]
  unfold Name.quoted
  split_ifs with h
  · rfl
  · have ends : [Name.accent].count '?' = 0 := rfl
    have accent_ne : Name.accent ≠ '?' := by decide
    rw [List.cons_append, List.count_cons_of_ne accent_ne, List.count_append, count_mark_body, ends,
      Nat.add_zero]

/-- Whatever the name is, quoting it binds nothing. -/
theorem binds_quoted (name : List Char) : Binds 0 (Name.quoted name) :=
  ⟨inside_quoted false name, marks_false_quoted name⟩

end Text

/-! ## Clauses -/

namespace Clause

open Text

theorem not_mem_vocabulary :
    ∀ w ∈ vocabulary, Name.accent ∉ w.toList ∧ '?' ∉ w.toList := by
  decide

/-- The pieces of a clause bind as many values as there are marks among them. -/
theorem binds_pieces {c : Clause} (h : c.Avoids [Name.accent, '?']) {ps : List Piece}
    (hps : ∀ p ∈ ps, c.Allowed p) : Binds (ps.count .mark) (Piece.text ps) := by
  induction ps with
  | nil => exact binds_nil
  | cons p ps ih =>
    have rest := ih fun p hp => hps p (List.mem_cons_of_mem _ hp)
    rw [Piece.text_cons]
    rcases hps p List.mem_cons_self with ⟨w, hw, rfl⟩ | ⟨n, rfl⟩ | ⟨t, ht, rfl⟩ | rfl
    · obtain ⟨ha, hm⟩ := not_mem_vocabulary w hw
      simpa [Piece.chars] using (binds_of_not_mem ha hm).append rest
    · simpa [Piece.chars] using (binds_quoted n.toList).append rest
    · have ha := h t ht Name.accent List.mem_cons_self
      have hm := h t ht '?' (List.mem_cons_of_mem _ List.mem_cons_self)
      simpa [Piece.chars] using (binds_of_not_mem ha hm).append rest
    · simpa [Piece.chars, Nat.add_comm] using binds_mark.append rest

theorem binds_text {c : Clause} (h : c.Avoids [Name.accent, '?']) :
    Binds c.params.length c.text := by
  rw [← count_mark_pieces]
  exact binds_pieces h c.allowed_of_mem_pieces

theorem listParams_cons (c : Clause) (cs : List Clause) :
    listParams (c :: cs) = c.params ++ listParams cs :=
  List.flatMap_cons

theorem listParams_append (cs ds : List Clause) :
    listParams (cs ++ ds) = listParams cs ++ listParams ds :=
  List.flatMap_append

theorem binds_tailText {cs : List Clause} (h : ∀ c ∈ cs, c.Avoids [Name.accent, '?']) :
    Binds (listParams cs).length (tailText cs) := by
  induction cs with
  | nil => exact binds_nil
  | cons c cs ih =>
    have blank : Binds 0 [' '] := binds_of_not_mem (by decide) (by decide)
    have hc := binds_text (h c List.mem_cons_self)
    have hcs := ih fun d hd => h d (List.mem_cons_of_mem _ hd)
    rw [listParams_cons, List.length_append, tailText]
    simpa using blank.append (hc.append hcs)

theorem binds_listText {cs : List Clause} (h : ∀ c ∈ cs, c.Avoids [Name.accent, '?']) :
    Binds (listParams cs).length (listText cs) := by
  cases cs with
  | nil => exact binds_nil
  | cons c cs =>
    rw [listParams_cons, List.length_append, listText]
    exact (binds_text (h c List.mem_cons_self)).append
      (binds_tailText fun d hd => h d (List.mem_cons_of_mem _ hd))

/-- What stands before the text of a clause: the text of the clauses before it and a blank, if
there are any. -/
def lead (cs : List Clause) : List Char := if cs = [] then [] else listText cs ++ [' ']

theorem listText_eq_lead_append (ds : List Clause) (c : Clause) (es : List Clause) :
    listText (ds ++ c :: es) = lead ds ++ c.text ++ tailText es := by
  unfold lead
  by_cases hds : ds = []
  · rw [if_pos hds, hds]
    rfl
  · rw [if_neg hds, listText_append hds, tailText]
    simp

theorem binds_lead {cs : List Clause} (h : ∀ c ∈ cs, c.Avoids [Name.accent, '?']) :
    Binds (listParams cs).length (lead cs) := by
  unfold lead
  split_ifs with hcs
  · rw [hcs]
    exact binds_nil
  · have blank : Binds 0 [' '] := binds_of_not_mem (by decide) (by decide)
    exact (binds_listText h).append blank

theorem listText_prefix {ds cs : List Clause} (h : ds <+: cs) : listText ds <+: listText cs := by
  obtain ⟨es, rfl⟩ := h
  by_cases hds : ds = []
  · rw [hds]
    exact List.nil_prefix
  · rw [listText_append hds]
    exact List.prefix_append _ _

end Clause

/-! ## Statements -/

namespace Statement

/-- The positions of the question marks of a statement that stand outside accents. -/
def bindPositions (s : Statement) : List Nat := Text.bindPositions s.sql.toList

/-- The statement has one mark outside accents for each of its parameters. -/
def Balanced (s : Statement) : Prop := s.bindPositions.length = s.params.length

instance (s : Statement) : Decidable s.Balanced :=
  inferInstanceAs (Decidable (s.bindPositions.length = s.params.length))

theorem written_balanced {cs : List Clause} (h : ∀ c ∈ cs, c.Avoids [Name.accent, '?']) :
    (written cs).Balanced := by
  unfold Balanced bindPositions written
  rw [String.toList_ofList, (Clause.binds_listText h).length_bindPositions]

/-- Every beginning of a list of clauses is a beginning of its statement, with as many marks outside
accents as parameters, and the marks of a clause's own parameters stand in its own text. -/
theorem marks_follow_clauses {cs : List Clause} {s : Statement} (hs : ofClauses cs = .ok s)
    (clean : ∀ c ∈ cs, c.Avoids [Name.accent, '?']) :
    (∀ ds, ds <+: cs → ∃ p, ofClauses ds = .ok p ∧ p.sql.toList <+: s.sql.toList ∧
      p.params <+: s.params ∧ p.bindPositions.length = p.params.length) ∧
    ∀ ds c es, cs = ds ++ c :: es → ∃ p q before after, ofClauses ds = .ok p ∧
      c.compile = .ok q ∧ s.sql.toList = before ++ q.sql.toList ++ after ∧
      before = (if ds = [] then [] else p.sql.toList ++ [' ']) ∧
      ∀ k, p.params.length ≤ k → k < p.params.length + q.params.length →
        s.params[k]? = q.params[k - p.params.length]? ∧
        ∃ i, s.bindPositions[k]? = some i ∧ before.length ≤ i ∧
          i < before.length + q.sql.toList.length := by
  obtain ⟨hfault, rfl⟩ := ofClauses_eq_ok_iff.1 hs
  constructor
  · rintro ds ⟨es, rfl⟩
    have hds : ofClauses ds = .ok (written ds) :=
      ofClauses_eq_ok_iff.2 ⟨fun c hc => hfault c (List.mem_append_left _ hc), rfl⟩
    refine ⟨written ds, hds, ?_, ?_, ?_⟩
    · simp only [written, String.toList_ofList]
      exact Clause.listText_prefix (List.prefix_append ds es)
    · simp only [written, Clause.listParams_append]
      exact List.prefix_append _ _
    · exact written_balanced fun c hc => clean c (List.mem_append_left _ hc)
  · rintro ds c es rfl
    have hds : ofClauses ds = .ok (written ds) :=
      ofClauses_eq_ok_iff.2 ⟨fun c hc => hfault c (List.mem_append_left _ hc), rfl⟩
    have hc : c.compile = .ok c.written := by
      rw [Clause.compile_eq, hfault c (List.mem_append_right _ List.mem_cons_self)]
    refine ⟨written ds, c.written, Clause.lead ds, Clause.tailText es, hds, hc, ?_, ?_, ?_⟩
    · simp only [written, Clause.written, String.toList_ofList, Clause.listText_eq_lead_append]
    · simp only [Clause.lead, written, String.toList_ofList]
    · intro k hk hk'
      simp only [written, Clause.written] at hk hk' ⊢
      constructor
      · rw [Clause.listParams_append, Clause.listParams_cons, List.getElem?_append_right hk,
          List.getElem?_append_left (by omega)]
      · have hlead := Clause.binds_lead fun d hd => clean d (List.mem_append_left _ hd)
        have htext := Clause.binds_text (clean c (List.mem_append_right _ List.mem_cons_self))
        simp only [bindPositions, String.toList_ofList, Clause.listText_eq_lead_append]
        exact hlead.getElem?_bindPositions htext (Clause.tailText es) hk hk'

/-- The mark in the name of the table is none, and the mark of the filter stands in its text. -/
theorem marks_follow_clauses_accent_in_name :
    ofClauses [.deleteFrom "a`?", .filter (.equal "id" .null)] =
        .ok ⟨"DELETE FROM `a``?` WHERE id = ?", [.null]⟩ ∧
      (∀ c ∈ [Clause.deleteFrom "a`?", .filter (.equal "id" .null)],
        c.Avoids [Name.accent, '?']) ∧
      ∃ p q before after, ofClauses [.deleteFrom "a`?"] = .ok p ∧
        (Clause.filter (.equal "id" .null)).compile = .ok q ∧
        "DELETE FROM `a``?` WHERE id = ?".toList = before ++ q.sql.toList ++ after ∧
        before = p.sql.toList ++ [' '] ∧
        ∀ k, p.params.length ≤ k → k < p.params.length + q.params.length →
          [Value.null][k]? = q.params[k - p.params.length]? ∧
          ∃ i, (Text.bindPositions "DELETE FROM `a``?` WHERE id = ?".toList)[k]? = some i ∧
            before.length ≤ i ∧ i < before.length + q.sql.toList.length := by
  have hs : ofClauses [.deleteFrom "a`?", .filter (.equal "id" .null)] =
      .ok ⟨"DELETE FROM `a``?` WHERE id = ?", [.null]⟩ := by decide
  have clean : ∀ c ∈ [Clause.deleteFrom "a`?", .filter (.equal "id" .null)],
      c.Avoids [Name.accent, '?'] :=
    List.forall_mem_cons.2 ⟨by decide, List.forall_mem_singleton.2 (by decide)⟩
  exact ⟨hs, clean, (marks_follow_clauses hs clean).2 [.deleteFrom "a`?"] _ [] rfl⟩

end Statement

end BoundSql
