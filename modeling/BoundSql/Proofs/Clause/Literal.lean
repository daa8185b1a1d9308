import BoundSql.Proofs.Clause.Repetition
import BoundSql.Proofs.Json.Literal

/-!
# Integer literals in clause lists

A value can be read on its own or in a list of clauses, where the text around its place is that of a
document with a gap (`Json.Surrounds`).  In both cases a numeral is read as the number that it denotes
and makes the whole text unreadable if it denotes none (`readsAs_of_isNumeral`).  So an integer literal
is read as its exact value where 64 bits hold it, and as a floating point number or not at all where
they do not (`integers_read_exactly`).
-/

namespace BoundSql

/-! ## Gaps in documents -/

namespace Json

/-- A number as a value. -/
def Number.toValue : Number → Value
  | .integer n => .integer n
  | .real x => .real x

theorem Number.toJson_toValue (x : Number) : x.toValue.toJson = .number x := by
  cases x <;> rfl

theorem Number.ofJson?_number (x : Number) : Value.ofJson? (.number x) = some x.toValue := by
  cases x <;> rfl

/-- The texts left and right of the gap in a document: whatever stands after the left one, it has the
tokens in front of the gap, and the right one, which does not go on with a word, has the others. -/
def Surrounds (left right : String) (document : Value → Json) : Prop :=
  ∃ before after : List Token,
    (∀ s, Mode.tokens? .outside (left.toList ++ s) =
      (Mode.tokens? .outside s).map (before ++ ·)) ∧
    Mode.EndsWord right.toList ∧ Mode.tokens? .outside right.toList = some after ∧
    ∀ v, (document v).tokens = before ++ v.toJson.tokens ++ after

/-- A text that ends in a character that is a token on its own can stand left of anything. -/
theorem tokens?_left {s : List Char} {ts : List Token} {c : Char} {t : Token}
    (h : Mode.tokens? .outside s = some ts) (apart : Mode.inWord c = false)
    (single : Mode.start? c = some (.outside, [t])) (rest : List Char) :
    Mode.tokens? .outside (s ++ [c] ++ rest) =
      (Mode.tokens? .outside rest).map (ts ++ [t] ++ ·) := by
  rw [List.append_assoc, List.singleton_append, Mode.tokens?_append_cons h apart single]
  simp only [List.append_assoc, List.singleton_append]

/-- A numeral in the gap of a document that is not too deep is read as its number in the gap. -/
theorem Surrounds.ofText?_numeral {left right : String} {document : Value → Json}
    (h : Surrounds left right document)
    (shallow : ∀ v, (document v).depth ≤ Reader.depthLimit) {w : List Char} (numeral : IsNumeral w) :
    Json.ofText? (left ++ .ofList w ++ right) =
      (Number.ofText? w).map fun x => document x.toValue := by
  obtain ⟨before, after, opens, ends, closes, written⟩ := h
  have split : tokens? (left ++ .ofList w ++ right) =
      (Number.ofText? w).map fun x => (document x.toValue).tokens := by
    rw [tokens?, String.toList_append, String.toList_append, String.toList_ofList,
      List.append_assoc, opens, Mode.tokens?_numeral numeral ends, closes]
    cases Number.ofText? w with
    | none => rfl
    | some x => simp [written, x.toJson_toValue, tokens]
  rw [Json.ofText?, split]
  cases Number.ofText? w with
  | none => rfl
  | some x => exact ofTokens?_tokens (shallow x.toValue)

end Json

namespace Clause

/-! ## Places of values -/

/-- A place for a value in the text of a list of clauses, and the clauses that are read when a value
stands there. -/
structure ValuePlace where
  left : String
  right : String
  document : Value → Json
  clauses : Value → List Clause
  surrounds : Json.Surrounds left right document
  shallow : ∀ v, (document v).depth ≤ Json.Reader.depthLimit
  reads : ∀ v, listOfJson? (document v) = some (clauses v)

/-- The text with `w` in the place of the value. -/
def ValuePlace.text (p : ValuePlace) (w : String) : String := p.left ++ w ++ p.right

/-- The text is read as the value, on its own and wherever a value can stand in a list of clauses. -/
def ReadsAs (w : String) (v : Value) : Prop :=
  (Json.ofText? w >>= Value.ofJson?) = some v ∧
    ∀ p : ValuePlace, listOfText (p.text w) = .ok (p.clauses v)

/-- The text is no value, and neither is it part of a list of clauses in the place of one. -/
def Unreadable (w : String) : Prop :=
  (Json.ofText? w >>= Value.ofJson?) = none ∧
    ∀ p : ValuePlace, listOfText (p.text w) = .error (.invalidClause .malformedList)

theorem listOfText_numeral (p : ValuePlace) {w : List Char} (h : Json.IsNumeral w) :
    listOfText (p.text (.ofList w)) = match Json.Number.ofText? w with
      | some x => .ok (p.clauses x.toValue)
      | none => .error (.invalidClause .malformedList) := by
  rw [listOfText, ValuePlace.text, p.surrounds.ofText?_numeral p.shallow h]
  cases Json.Number.ofText? w with
  | none => rfl
  | some x => rw [Option.map_some, Option.bind_eq_bind, Option.bind_some, p.reads]

/-- A numeral is read as the number that it denotes, if it denotes one. -/
theorem readsAs_of_isNumeral {w : List Char} (h : Json.IsNumeral w) :
    (∀ x, Json.Number.ofText? w = some x → ReadsAs (.ofList w) x.toValue) ∧
      (Json.Number.ofText? w = none → Unreadable (.ofList w)) := by
  have alone := Json.ofText?_numeral h
  constructor
  · intro x hx
    refine ⟨?_, fun p => by rw [listOfText_numeral p h, hx]⟩
    rw [alone, hx, Option.map_some, Option.bind_eq_bind, Option.bind_some, x.ofJson?_number]
  · intro hx
    refine ⟨?_, fun p => by rw [listOfText_numeral p h, hx]⟩
    rw [alone, hx]
    rfl

/-- A numeral that denotes no integer is read as a floating point number or not at all. -/
theorem real_or_unreadable {w : List Char} (h : Json.IsNumeral w)
    (no : ∀ n, Json.Number.ofText? w ≠ some (.integer n)) :
    (∃ x, ReadsAs (.ofList w) (.real x)) ∨ Unreadable (.ofList w) := by
  obtain ⟨reads, unreadable⟩ := readsAs_of_isNumeral h
  cases hx : Json.Number.ofText? w with
  | none => exact Or.inr (unreadable hx)
  | some x =>
    cases x with
    | integer n => exact absurd hx (no n)
    | real x => exact Or.inl ⟨x, reads _ hx⟩

/-- A literal of any length is read as an integer exactly when 64 bits with sign hold its value and it
is not minus zero, and this integer is its value; otherwise it is read as a floating point number or
not at all.  A numeral with a point or an exponent is never read as an integer, and the text that is
written for an integer is read as this integer. -/
theorem integers_read_exactly :
    (∀ l : Json.Literal,
      (l.Held → ∃ n : Int64, n.toInt = l.value ∧ ReadsAs l.text (.integer n)) ∧
      (¬ l.Held → (∃ x, ReadsAs l.text (.real x)) ∨ Unreadable l.text)) ∧
    (∀ w : List Char, Json.IsNumeral w → '.' ∈ w ∨ 'e' ∈ w ∨ 'E' ∈ w →
      (∃ x, ReadsAs (.ofList w) (.real x)) ∨ Unreadable (.ofList w)) ∧
    ∀ n : Int64, ReadsAs (Value.integer n).toJson.text (.integer n) := by
  refine ⟨fun l => ⟨?_, ?_⟩, ?_, ?_⟩
  · intro held
    obtain ⟨n, value, read⟩ := Json.Literal.exists_ofText?_eq_integer held
    exact ⟨n, value, (readsAs_of_isNumeral l.isNumeral).1 _ read⟩
  · intro notHeld
    refine real_or_unreadable l.isNumeral fun n read => ?_
    exact notHeld ((l.ofText?_eq_integer_iff n).1 read).1
  · intro w numeral marked
    refine real_or_unreadable numeral fun n read => ?_
    have plain := Json.Number.eq_minus_or_isDigit_of_ofText? read
    rcases marked with h | h | h <;> exact absurd (plain _ h) (by decide)
  · intro n
    have written : (Value.integer n).toJson.text = .ofList (Json.Number.integer n).text := by
      simp [Json.text, Value.toJson, Json.tokens, Json.Token.text]
    have numeral : Json.IsNumeral (Json.Number.integer n).text := by
      show Json.IsNumeral (intText n.toInt)
      rw [← Json.Literal.chars_ofInt]
      exact (Json.Literal.ofInt n.toInt).isNumeral
    rw [written]
    exact (readsAs_of_isNumeral numeral).1 _ (Json.Number.ofText?_text_integer n)

/-- The value of a condition, in a list of nothing else. -/
def conditionPlace : ValuePlace where
  left := "[[\"WHERE\",\"a\",\"=\","
  right := "]]"
  document v := .array [.array [.string "WHERE", .string "a", .string "=", v.toJson]]
  clauses v := [.filter ⟨"a", .equal, v⟩]
  surrounds := by
    have opens : Json.Mode.tokens? .outside "[[\"WHERE\",\"a\",\"=\"".toList = some
        [.openArray, .openArray, .string "WHERE".toList, .comma, .string "a".toList, .comma,
          .string "=".toList] := by
      decide +kernel
    refine ⟨_, [.closeArray, .closeArray], fun s => Json.tokens?_left opens rfl rfl s, ?_, rfl,
      fun v => ?_⟩
    · exact Text.endsWord_cons (p := fun c => Json.Mode.inWord c = false) (by decide) _
    · cases v <;> rfl
  shallow v := by
    have two : (Json.array [.array [.string "WHERE", .string "a", .string "=", v.toJson]]).depth = 2 := by
      cases v <;> rfl
    rw [two]
    decide
  reads v := by cases v <;> rfl

/-- The least integer of 64 bits, and the number after the greatest. -/
theorem integers_read_exactly_at_limits :
    listOfText (conditionPlace.text "-9223372036854775808") =
        .ok [.filter ⟨"a", .equal, .integer Int64.minValue⟩] ∧
      ((∃ x, listOfText (conditionPlace.text "9223372036854775808") =
          .ok [.filter ⟨"a", .equal, .real x⟩]) ∨
        listOfText (conditionPlace.text "9223372036854775808") =
          .error (.invalidClause .malformedList)) := by
  let least : Json.Literal :=
    ⟨true, "9223372036854775808".toList, by decide, List.all_eq_true.1 rfl, by decide⟩
  let beyond : Json.Literal :=
    ⟨false, "9223372036854775808".toList, by decide, List.all_eq_true.1 rfl, by decide⟩
  obtain ⟨n, value, read⟩ := (integers_read_exactly.1 least).1 (by decide)
  have minimum : n = Int64.minValue := Int64.toInt_inj.1 value
  constructor
  · exact minimum ▸ read.2 conditionPlace
  · rcases (integers_read_exactly.1 beyond).2 (by decide) with ⟨x, read⟩ | refused
    · exact Or.inl ⟨x, read.2 conditionPlace⟩
    · exact Or.inr (refused.2 conditionPlace)

end Clause

end BoundSql
