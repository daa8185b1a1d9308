import BoundSql.Toml.Lines

/-!
# Texts of several parts

A text that can be read on its own is read in the same way when a line feed and further text follow
(`linesOf?_newline`), so a document can be put together from texts, one below the other
(`linesOf?_intercalate`).
-/

namespace BoundSql.Toml

/-! ## Tokens before a line feed -/

namespace Mode

theorem tokens?_cons {mode mode' : Mode} {c : Char} {ts : List Token}
    (h : step? mode c = some (mode', ts)) (s : List Char) :
    tokens? mode (c :: s) = (tokens? mode' s).map (ts ++ ·) := by
  rw [tokens?, h]

theorem tokens?_cons_silent {mode mode' : Mode} {c : Char} (h : step? mode c = some (mode', []))
    (s : List Char) : tokens? mode (c :: s) = tokens? mode' s := by
  rw [tokens?_cons h]
  exact Option.map_id' ..

theorem exists_step?_of_tokens?_cons {mode : Mode} {c : Char} {s : List Char} {ts : List Token}
    (h : tokens? mode (c :: s) = some ts) :
    ∃ mode' first rest, step? mode c = some (mode', first) ∧ tokens? mode' s = some rest ∧
      ts = first ++ rest := by
  rw [tokens?] at h
  cases step : step? mode c with
  | none =>
    rw [step] at h
    exact nomatch h
  | some next =>
    rw [step] at h
    obtain ⟨rest, hrest, rfl⟩ := Option.map_eq_some_iff.1 h
    exact ⟨next.1, next.2, rest, rfl, hrest, rfl⟩

/-- The mode behind a text, and the tokens that the text completes. -/
def run? : Mode → List Char → Option (Mode × List Token)
  | mode, [] => some (mode, [])
  | mode, c :: s =>
    match step? mode c with
    | none => none
    | some (mode, ts) => (run? mode s).map fun r => (r.1, ts ++ r.2)

theorem tokens?_append {mode mode' : Mode} {s : List Char} {ts : List Token}
    (h : run? mode s = some (mode', ts)) (rest : List Char) :
    tokens? mode (s ++ rest) = (tokens? mode' rest).map (ts ++ ·) := by
  induction s generalizing mode ts with
  | nil =>
    cases h
    exact (Option.map_id' ..).symm
  | cons c s ih =>
    rw [run?] at h
    cases step : step? mode c with
    | none =>
      rw [step] at h
      exact nomatch h
    | some next =>
      rw [step] at h
      obtain ⟨r, hr, same⟩ := Option.map_eq_some_iff.1 h
      cases same
      rw [List.cons_append, tokens?_cons step, ih hr, Option.map_map]
      simp only [Function.comp_def, List.append_assoc]

/-- The quote of the string that is being read. -/
def mark? : Mode → Option Char
  | .opening mark _ => some mark
  | .firstLine mark _ => some mark
  | .text q _ => some q.mark
  | .textBreak q _ => some q.mark
  | .closing q .. => some q.mark
  | .escape q _ => some q.mark
  | .code q .. => some q.mark
  | .joining q .. => some q.mark
  | .joiningBreak q _ => some q.mark
  | _ => none

/-- A string that is being read stands between quotes. -/
def Quoted (mode : Mode) : Prop := ∀ mark ∈ mode.mark?, mark = '"' ∨ mark = '\''

theorem quoted_outside : outside.Quoted := fun _ h => nomatch h

theorem quoted_start (c : Char) : (start c).1.Quoted := by
  intro mark h
  unfold start at h
  split at h
  · exact nomatch h
  · grind [mark?]

theorem quoted_inText? {q : Quotes} {read : List Char} {c : Char} {mode : Mode} {ts : List Token}
    (hq : q.mark = '"' ∨ q.mark = '\'') (h : inText? q read c = some (mode, ts)) :
    mode.Quoted := by
  intro mark hm
  unfold inText? at h
  grind [mark?]

theorem quoted_inEscape? {q : Quotes} {read : List Char} {c : Char} {mode : Mode}
    (hq : q.mark = '"' ∨ q.mark = '\'') (h : inEscape? q read c = some mode) :
    mode.Quoted := by
  intro mark hm
  unfold inEscape? at h
  grind [mark?]

theorem quoted_of_startAfter {t : Token} {c : Char} {mode : Mode} {ts : List Token}
    (h : some (startAfter t c) = some (mode, ts)) : mode.Quoted := by
  obtain ⟨rfl, -⟩ := Prod.mk.inj (Option.some.inj h)
  exact quoted_start c

theorem quoted_step? {mode mode' : Mode} {c : Char} {ts : List Token}
    (hq : mode.Quoted) (h : step? mode c = some (mode', ts)) : mode'.Quoted := by
  cases mode with
  | outside =>
    obtain ⟨rfl, -⟩ := Prod.mk.inj (Option.some.inj h)
    exact quoted_start c
  | space one =>
    simp only [step?] at h
    split at h
    · cases h
      exact nofun
    · exact quoted_of_startAfter h
  | bare read =>
    simp only [step?] at h
    split at h
    · cases h
      exact nofun
    · exact quoted_of_startAfter h
  | comment =>
    simp only [step?] at h
    split at h
    · obtain ⟨rfl, -⟩ := Prod.mk.inj (Option.some.inj h)
      exact quoted_start c
    · split at h <;> cases h
      exact nofun
  | lineBreak =>
    simp only [step?] at h
    split at h <;> cases h
    exact nofun
  | opening mark second =>
    simp only [step?] at h
    split at h
    · split at h <;> cases h <;> exact hq
    · split at h
      · exact quoted_of_startAfter h
      · exact quoted_inText? (hq mark rfl) h
  | firstLine mark carriage =>
    simp only [step?] at h
    split at h
    · cases h
      exact hq
    · split at h
      · exact nomatch h
      · split at h
        · cases h
          exact hq
        · exact quoted_inText? (hq mark rfl) h
  | text q read => exact quoted_inText? (hq q.mark rfl) h
  | textBreak q read =>
    simp only [step?] at h
    split at h <;> cases h
    exact hq
  | closing q read count =>
    simp only [step?] at h
    split at h
    · next same =>
      subst same
      split at h <;> cases h <;> exact hq
    · split at h
      · exact quoted_inText? (hq q.mark rfl) h
      · exact quoted_of_startAfter h
  | escape q read =>
    obtain ⟨next, hnext, same⟩ := Option.map_eq_some_iff.1 h
    obtain ⟨rfl, -⟩ := Prod.mk.inj same
    exact quoted_inEscape? (hq q.mark rfl) hnext
  | code q read due value =>
    obtain ⟨n, -, h⟩ := Option.bind_eq_some_iff.1 h
    split at h
    · cases h
      exact hq
    · obtain ⟨d, -, same⟩ := Option.map_eq_some_iff.1 h
      cases same
      exact hq
  | joining q read ended =>
    simp only [step?] at h
    split at h
    · cases h
      exact hq
    · split at h
      · cases h
        exact hq
      · split at h
        · cases h
          exact hq
        · split at h
          · exact quoted_inText? (hq q.mark rfl) h
          · exact nomatch h
  | joiningBreak q read =>
    simp only [step?] at h
    split at h <;> cases h
    exact hq

/-- Where a text can end, a line feed completes the same tokens and is one itself. -/
theorem step?_newline {mode : Mode} {ts : List Token} (hq : mode.Quoted)
    (h : finish? mode = some ts) : step? mode '\n' = some (.outside, ts ++ [.newline]) := by
  have other {mark : Char} (h : mark = '"' ∨ mark = '\'') : '\n' ≠ mark := by
    rintro rfl
    exact absurd h (by decide)
  cases mode with
  | outside => cases h; rfl
  | space one => cases h; rfl
  | bare read => cases h; rfl
  | comment => cases h; rfl
  | opening mark second =>
    cases second with
    | false => exact nomatch h
    | true =>
      cases h
      rw [step?, if_neg (other (hq mark rfl))]
      rfl
  | closing q read count =>
    simp only [finish?] at h
    split at h
    · exact nomatch h
    · next complete =>
      cases h
      rw [step?, if_neg (other (hq q.mark rfl)), if_neg complete]
      rfl
  | _ => exact nomatch h

theorem tokens?_newline {mode : Mode} (hq : mode.Quoted) {s : List Char} {ts : List Token}
    (h : tokens? mode s = some ts) (rest : List Char) :
    tokens? mode (s ++ '\n' :: rest) =
      (tokens? .outside rest).map (ts ++ .newline :: ·) := by
  induction s generalizing mode ts with
  | nil =>
    rw [List.nil_append, tokens?_cons (step?_newline hq h)]
    simp only [List.append_assoc, List.singleton_append]
  | cons c s ih =>
    obtain ⟨mode', first, ts', step, h', rfl⟩ := exists_step?_of_tokens?_cons h
    rw [List.cons_append, tokens?_cons step, ih (quoted_step? hq step) h', Option.map_map]
    simp only [Function.comp_def, List.append_assoc]

end Mode

/-! ## Lines before a line feed -/

namespace Reader

theorem lines?_cons {r r' : Reader} {t : Token} {ls : List Line}
    (h : step? r t = some (r', ls)) (ts : List Token) :
    lines? r (t :: ts) = (lines? r' ts).map (ls ++ ·) := by
  rw [lines?, h]

/-- Where a text can end, the end of the line completes the same line. -/
theorem step?_newline {r : Reader} {ls : List Line} (h : finish? r = some ls) :
    step? r .newline = some (.line, ls) := by
  unfold finish? at h
  split at h
  · cases h; rfl
  · cases h; rfl
  · obtain ⟨v, hv, rfl⟩ := Option.map_eq_some_iff.1 h
    simp [step?, afterBare?, hv, complete?]
  · obtain ⟨v, hv, rfl⟩ := Option.map_eq_some_iff.1 h
    simp [step?, afterBare?, hv, complete?]
  · cases h; rfl
  · exact nomatch h

theorem lines?_newline {r : Reader} {ts : List Token} {ls : List Line}
    (h : lines? r ts = some ls) (rest : List Token) :
    lines? r (ts ++ .newline :: rest) = (lines? .line rest).map (ls ++ ·) := by
  induction ts generalizing r ls with
  | nil => rw [List.nil_append, lines?_cons (step?_newline h)]
  | cons t ts ih =>
    rw [lines?] at h
    cases step : step? r t with
    | none =>
      rw [step] at h
      exact nomatch h
    | some next =>
      rw [step] at h
      obtain ⟨ls', h', rfl⟩ := Option.map_eq_some_iff.1 h
      rw [List.cons_append, lines?_cons step, ih h', Option.map_map]
      simp only [Function.comp_def, List.append_assoc]

end Reader

/-! ## Texts below each other -/

/-- The lines of a text without a byte order mark. -/
def linesOf? (s : List Char) : Option (List Line) :=
  (Mode.tokens? .outside s).bind (Reader.lines? .line)

/-- A text is read on its own as before when further text follows on the next line. -/
theorem linesOf?_newline {s : List Char} {ls : List Line} (h : linesOf? s = some ls)
    (rest : List Char) :
    linesOf? (s ++ '\n' :: rest) = (linesOf? rest).map (ls ++ ·) := by
  obtain ⟨ts, hts, hls⟩ := Option.bind_eq_some_iff.1 h
  unfold linesOf?
  rw [Mode.tokens?_newline Mode.quoted_outside hts]
  cases Mode.tokens? .outside rest with
  | none => rfl
  | some us => exact Reader.lines?_newline hls us

/-- The lines of a text that can be read on its own. -/
def linesOf (s : List Char) : List Line := (linesOf? s).getD []

/-- Texts that can be read on their own are read below each other. -/
theorem linesOf?_intercalate {texts : List (List Char)} (h : ∀ s ∈ texts, (linesOf? s).isSome) :
    linesOf? (['\n'].intercalate texts) = some (texts.flatMap linesOf) := by
  induction texts with
  | nil => rfl
  | cons s texts ih =>
    rw [List.forall_mem_cons] at h
    obtain ⟨ls, hs⟩ := Option.isSome_iff_exists.1 h.1
    have read : linesOf s = ls := by rw [linesOf, hs, Option.getD_some]
    cases texts with
    | nil => rw [List.intercalate_singleton, List.flatMap_singleton, hs, read]
    | cons t texts =>
      rw [List.intercalate_cons_cons, List.append_assoc, List.singleton_append,
        linesOf?_newline hs, ih h.2, ← read]
      rfl

namespace Mode

theorem exists_of_tokens?_bare {read s : List Char} {ts : List Token}
    (h : tokens? (.bare read) s = some ts) :
    ∃ w us, ts = .bare (read.reverse ++ w) :: us := by
  induction s generalizing read ts with
  | nil =>
    cases h
    exact ⟨[], [], by rw [List.append_nil]⟩
  | cons c s ih =>
    obtain ⟨mode, first, rest, step, h', rfl⟩ := exists_step?_of_tokens?_cons h
    by_cases word : inBare c = true
    · obtain ⟨rfl, rfl⟩ := Prod.mk.inj (Option.some.inj ((if_pos word).symm.trans step))
      obtain ⟨w, us, rfl⟩ := ih h'
      exact ⟨c :: w, us, by simp⟩
    · obtain ⟨-, rfl⟩ := Prod.mk.inj (Option.some.inj ((if_neg word).symm.trans step))
      exact ⟨[], _, by rw [List.append_nil]; rfl⟩

end Mode

/-- A byte order mark belongs to no line. -/
theorem linesOf?_mark (s : List Char) : linesOf? ('\uFEFF' :: s) = none := by
  have step : Mode.step? .outside '\uFEFF' = some (.bare ['\uFEFF'], []) := rfl
  unfold linesOf?
  rw [Mode.tokens?_cons step]
  cases h : Mode.tokens? (.bare ['\uFEFF']) s with
  | none => rfl
  | some ts =>
    obtain ⟨w, us, rfl⟩ := Mode.exists_of_tokens?_bare h
    rfl

theorem ofText?_ofList {s : List Char} {ls : List Line} (h : linesOf? s = some ls) :
    ofText? (.ofList s) = ofLines? ls := by
  have unmarked : dropMark s = s := by
    cases s with
    | nil => rfl
    | cons c s =>
      refine if_neg ?_
      rintro rfl
      rw [linesOf?_mark] at h
      exact nomatch h
  obtain ⟨ts, hts, hls⟩ := Option.bind_eq_some_iff.1 h
  have read : tokens? (.ofList s) = some ts := by
    rw [tokens?, String.toList_ofList, unmarked, hts]
  simp only [ofText?, read, hls, Option.bind_eq_bind, Option.bind_some]

end BoundSql.Toml
