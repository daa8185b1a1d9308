import BoundSql.Proofs.Clause.Spelling
import BoundSql.Proofs.Comparator
import BoundSql.Proofs.Statement.Marks
import BoundSql.Proofs.Statement.Unambiguous

/-!
# Comparators from texts

A clause can be left open in the place of the comparator of one of its conditions (`Clause.Gap`).  A
list of clauses with a gap is read if the JSON value in the gap is a comparator and refused if it is
not, whatever the spellings of the clause and of the condition are (`Clause.listOfText_of_gap`); and
the statement of the list has the spelling of the comparator between two texts in which the comparator
has no part (`Statement.ofClauses_fill`).  So nothing but a spelling gets from JSON or from a person
into SQL (`Comparator.tables_agree`).
-/

namespace BoundSql

/-! ## JSON values -/

namespace Comparator

/-- The JSON values that name a comparator by a text: the string, and the objects whose only member
has the text for a name and nothing for a value. -/
inductive Named (s : String) : Json → Prop
  | string : Named s (.string s)
  | null : Named s (.object [(s, .null)])
  | empty : Named s (.object [(s, .object [])])

theorem ofJson?_of_named {s : String} {v : Json} (h : Named s v) : ofJson? v = ofSpelling? s := by
  cases h <;> rfl

/-- A JSON value is a comparator if it names one by its spelling. -/
theorem ofJson?_eq_some_iff {v : Json} {c : Comparator} : ofJson? v = some c ↔ Named c.sql v := by
  constructor
  · intro h
    unfold ofJson? at h
    split at h
    · exact ofSpelling?_eq_some_iff.1 h ▸ .string
    · exact ofSpelling?_eq_some_iff.1 h ▸ .null
    · exact ofSpelling?_eq_some_iff.1 h ▸ .empty
    · cases h
  · intro h
    rw [ofJson?_of_named h, ofSpelling?_eq_some_iff]

end Comparator

/-- A list of which all members but one can be read is read if this one is. -/
theorem mapM_append_cons {α β : Type} {decode : β → Option α} {before after : List β}
    {earlier later : List α} (hbefore : before.mapM decode = some earlier)
    (hafter : after.mapM decode = some later) (b : β) :
    (before ++ b :: after).mapM decode = (decode b).map fun a => earlier ++ a :: later := by
  rw [List.mapM_append, hbefore, List.mapM_cons, hafter]
  cases decode b <;> rfl

namespace Condition

/-- The fields of a condition with the given JSON values for its comparator and its value. -/
def fieldsWith (column : String) (comparator value : Json) : List (String × Json) :=
  [("column", .string column), ("comparator", comparator), ("value", value)]

/-- The spellings of a condition with a JSON value in the place of its comparator. -/
inductive SpelledWith (comparator : Json) (column : String) (value : Value) : Json → Prop
  | object {v : Json} {members : List (String × Json)} (hv : Value.ofJson? v = some value)
    (holds : Json.Holds fieldNames.flatten (fieldsWith column comparator v) members) :
    SpelledWith comparator column value (.object members)
  | array {v : Json} (hv : Value.ofJson? v = some value) :
    SpelledWith comparator column value (.array ((fieldsWith column comparator v).map Prod.snd))

theorem named_fieldsWith (column : String) (comparator value : Json) :
    List.Forall₂ (fun n (m : String × Json) => m.1 ∈ n) fieldNames
      (fieldsWith column comparator value) := by
  simp [fieldNames, fieldsWith]

theorem ofFields?_fieldsWith {v : Json} {value : Value} (hv : Value.ofJson? v = some value)
    (column : String) (comparator : Json) :
    ofFields? ((fieldsWith column comparator v).map Prod.snd) =
      (Comparator.ofJson? comparator).map fun c => ⟨column, c, value⟩ := by
  simp only [fieldsWith, List.map_cons, List.map_nil, ofFields?, hv]
  cases Comparator.ofJson? comparator <;> rfl

theorem ofJson?_of_spelledWith {comparator : Json} {column : String} {value : Value} {item : Json}
    (h : SpelledWith comparator column value item) :
    ofJson? item = (Comparator.ofJson? comparator).map fun c => ⟨column, c, value⟩ := by
  cases h with
  | object hv holds =>
    rw [ofJson?, Json.fields?_of_holds (named_fieldsWith ..) (by decide) holds, Option.bind_eq_bind,
      Option.bind_some, ofFields?_fieldsWith hv]
  | array hv => exact ofFields?_fieldsWith hv ..

end Condition

/-! ## Clauses with a gap -/

namespace Clause

/-- A clause with a gap in the place of the comparator of one of its conditions. -/
inductive Gap
  /-- A filter by the condition. -/
  | filter (column : String) (value : Value)
  /-- A filter by the condition and by those before and after it. -/
  | filterAll (earlier : List Condition) (column : String) (value : Value)
    (later : List Condition)

namespace Gap

/-- The clause with a comparator in the gap. -/
def fill (c : Comparator) : Gap → Clause
  | .filter column value => .filter ⟨column, c, value⟩
  | .filterAll earlier column value later => .filterAll (earlier ++ ⟨column, c, value⟩ :: later)

/-- The kind of the clause. -/
def kind : Gap → Kind
  | .filter .. => .filter
  | .filterAll .. => .filterAll

/-- The column of the condition. -/
def column : Gap → String
  | .filter column _ => column
  | .filterAll _ column _ _ => column

/-- The value of the condition. -/
def value : Gap → Value
  | .filter _ value => value
  | .filterAll _ _ value _ => value

/-- The conditions before the one with the gap. -/
def earlier : Gap → List Condition
  | .filter .. => []
  | .filterAll earlier _ _ _ => earlier

/-- The conditions after the one with the gap. -/
def later : Gap → List Condition
  | .filter .. => []
  | .filterAll _ _ _ later => later

/-- The values that the clause binds. -/
def params (g : Gap) : List Value :=
  g.earlier.map Condition.value ++ g.value :: g.later.map Condition.value

/-- The text of the clause in front of the gap. -/
def left (g : Gap) : String :=
  "WHERE " ++ String.join (g.earlier.map fun d => d.sql ++ " AND ") ++ g.column ++ " "

/-- The text of the clause after the gap. -/
def right (g : Gap) : String := " ?" ++ String.join (g.later.map fun d => " AND " ++ d.sql)

theorem fill_injective (g : Gap) : Function.Injective fun c => g.fill c := by
  intro a b h
  cases g <;> simpa [fill] using h

theorem fault?_fill (g : Gap) (c : Comparator) : (g.fill c).fault? = none := by
  cases g <;> simp [fill, fault?]

theorem params_fill (g : Gap) (c : Comparator) : (g.fill c).params = g.params := by
  cases g <;> simp [fill, Clause.params, params, earlier, value, later]

end Gap

/-! ## The gap in JSON -/

namespace Gap

/-- The fields of the clause, by name, with a JSON value in the gap. -/
inductive Fields (comparator : Json) : Gap → List (String × Json) → Prop
  | filter {column : String} {v : Json} {value : Value} (hv : Value.ofJson? v = some value) :
    Fields comparator (.filter column value) (Condition.fieldsWith column comparator v)
  | filterAll {name column : String} {value : Value} {before after : List Json} {item : Json}
    {earlier later : List Condition} (named : name ∈ ["conditions", "whereBlocks"])
    (hbefore : before.mapM Condition.ofJson? = some earlier)
    (hafter : after.mapM Condition.ofJson? = some later)
    (h : Condition.SpelledWith comparator column value item) :
    Fields comparator (.filterAll earlier column value later)
      [(name, .array (before ++ item :: after))]

/-- The spellings of the clause with a JSON value in the gap. -/
inductive Spelled (comparator : Json) (g : Gap) : Json → Prop
  | object {fields members : List (String × Json)} (h : g.Fields comparator fields)
    (holds : Json.Holds ("type" :: g.kind.fieldNames.flatten)
      (("type", .string g.kind.tag) :: fields) members) :
    Spelled comparator g (.object members)
  | array {fields : List (String × Json)} (h : g.Fields comparator fields) :
    Spelled comparator g (.array (.string g.kind.tag :: fields.map Prod.snd))

variable {comparator : Json} {g : Gap}

theorem Fields.named {fields : List (String × Json)} (h : g.Fields comparator fields) :
    List.Forall₂ (fun n m => m.1 ∈ n) g.kind.fieldNames fields := by
  cases h with
  | filter hv => exact Condition.named_fieldsWith ..
  | filterAll named => exact .cons named .nil

theorem Fields.ofFields? {fields : List (String × Json)} (h : g.Fields comparator fields) :
    ofFields? g.kind (fields.map Prod.snd) = (Comparator.ofJson? comparator).map (g.fill ·) := by
  cases h with
  | filter hv =>
    refine (congrArg (Option.map Clause.filter) (Condition.ofFields?_fieldsWith hv ..)).trans ?_
    rw [Option.map_map]
    rfl
  | filterAll named hbefore hafter h =>
    refine (congrArg (Option.map Clause.filterAll) (mapM_append_cons hbefore hafter _)).trans ?_
    rw [Condition.ofJson?_of_spelledWith h, Option.map_map, Option.map_map]
    rfl

/-- A clause with a JSON value in the gap is read if the value is a comparator. -/
theorem ofJson?_of_spelled {item : Json} (h : g.Spelled comparator item) :
    ofJson? item = (Comparator.ofJson? comparator).map (g.fill ·) := by
  cases h with
  | object h holds => rw [ofJson?_of_holds h.named holds, h.ofFields?]
  | array h => rw [ofJson?, Kind.ofTag_tag, h.ofFields?]

end Gap

/-- A list of clauses with a JSON value in a gap is read if the value is a comparator, and the list is
refused if it is not. -/
theorem listOfText_of_gap {text : String} {items items' : List Json} {item comparator : Json}
    {before after : List Clause} {g : Gap}
    (read : Json.ofText? text = some (.array (items ++ item :: items')))
    (hbefore : listOfJson? (.array items) = some before)
    (hafter : listOfJson? (.array items') = some after) (h : g.Spelled comparator item) :
    listOfText text = match Comparator.ofJson? comparator with
      | some c => .ok (before ++ g.fill c :: after)
      | none => .error (.invalidClause .malformedList) := by
  have list : listOfJson? (.array (items ++ item :: items')) =
      (Comparator.ofJson? comparator).map fun c => before ++ g.fill c :: after := by
    refine (mapM_append_cons hbefore hafter item).trans ?_
    rw [Gap.ofJson?_of_spelled h, Option.map_map]
    rfl
  rw [listOfText, read, Option.bind_eq_bind, Option.bind_some, list]
  cases Comparator.ofJson? comparator <;> rfl

/-! ## The gap in SQL -/

theorem text_merged (c : Clause) : c.merged.text = c.text := by
  cases c <;> simp [merged, text, pieces, Piece.joined_singleton]

theorem Gap.merged_fill (g : Gap) (c : Comparator) :
    (g.fill c).merged = .filterAll (g.earlier ++ ⟨g.column, c, g.value⟩ :: g.later) := by
  cases g <;> rfl

theorem Gap.text_fill (g : Gap) (c : Comparator) :
    (g.fill c).text = (g.left ++ c.sql ++ g.right).toList := by
  have blank : " ".toList = [' '] := rfl
  have mark : " ?".toList = [' ', '?'] := rfl
  have sql (d : Condition) : d.column.toList ++ ' ' :: (d.comparator.sql.toList ++ [' ', '?']) =
      d.sql.toList := by
    rw [toList_condition_sql, text_condition]
  -- A filter by the condition alone is written like a conjunction with no others.
  rw [← text_merged, g.merged_fill, text_filterAll, List.map_append, List.map_cons,
    Text.intercalate_append_cons]
  simp only [left, right, sql, blank, mark, String.toList_append, String.toList_join,
    List.flatMap_map, List.append_assoc, List.cons_append, List.nil_append]

end Clause

namespace Statement

/-- The statement of a list of clauses with a comparator in a gap has the spelling of the comparator
between two texts in which the comparator has no part. -/
theorem ofClauses_fill {before after : List Clause} (sound : ∀ d ∈ before ++ after, d.fault? = none)
    (g : Clause.Gap) (c : Comparator) :
    ofClauses (before ++ g.fill c :: after) = .ok
      ⟨.ofList (Clause.lead before) ++ g.left ++ c.sql ++ g.right ++
          .ofList (Clause.tailText after),
        Clause.listParams before ++ g.params ++ Clause.listParams after⟩ := by
  rw [List.forall_mem_append] at sound
  refine ofClauses_eq_ok_iff.2 ⟨?_, ?_⟩
  · rw [List.forall_mem_append, List.forall_mem_cons]
    exact ⟨sound.1, g.fault?_fill c, sound.2⟩
  · rw [written, Clause.listText_eq_lead_append, Clause.listParams_append, Clause.listParams_cons,
      g.text_fill, g.params_fill]
    simp only [String.ofList_append, String.ofList_toList, String.append_assoc, List.append_assoc]

end Statement

namespace Comparator

open Clause (Gap listOfJson? listOfText)

/-- The tables for SQL, for JSON and for people agree on every text.  A person's text is a comparator
if it is a spelling in SQL, in whatever case of ASCII letters and between blanks.  A JSON value is one
if it names a spelling as it stands, also in the place of the comparator of any condition, so a text
that JSON accepts is the same comparator from a person.  What gets into the SQL text of the condition
is in both cases one of the spellings, with the same text around it for all of them. -/
theorem tables_agree :
    (∀ (s : String) (c : Comparator), (parse s = .ok c ↔ canonical s = c.sql) ∧
      (parse s = .ok c ↔ Text.Variant c.sql.toList s.toList)) ∧
    (∀ s t : String, Text.Variant s.toList t.toList → parse t = parse s) ∧
    (∀ v c, ofJson? v = some c ↔ Named c.sql v) ∧
    (∀ (g : Gap) s v, Named s v → ∀ text items item items' before after,
      Json.ofText? text = some (.array (items ++ item :: items')) →
      listOfJson? (.array items) = some before → listOfJson? (.array items') = some after →
      g.Spelled v item →
      (∀ c, listOfText text = .ok (before ++ g.fill c :: after) ↔ s = c.sql) ∧
      (∀ c, listOfText text = .ok (before ++ g.fill c :: after) → parse s = .ok c) ∧
      ((∀ c : Comparator, s ≠ c.sql) → listOfText text = .error (.invalidClause .malformedList))) ∧
    ∀ (g : Gap) before after, (∀ d ∈ before ++ after, d.fault? = none) → ∀ s c,
      (parse s = .ok c ∨ ∃ v, Named s v ∧ ofJson? v = some c) →
      canonical s ∈ spellings ∧
        Statement.ofClauses (before ++ g.fill c :: after) = .ok
          ⟨.ofList (Clause.lead before) ++ g.left ++ canonical s ++ g.right ++
              .ofList (Clause.tailText after),
            Clause.listParams before ++ g.params ++ Clause.listParams after⟩ := by
  refine ⟨fun s c => ⟨parse_eq_ok_iff, parse_eq_ok_iff_variant⟩, fun s t => parse_eq_of_variant,
    fun v c => ofJson?_eq_some_iff, ?_, ?_⟩
  · intro g s v named text items item items' before after read hbefore hafter spelled
    have list := Clause.listOfText_of_gap read hbefore hafter spelled
    rw [ofJson?_of_named named] at list
    have accepts (c : Comparator) :
        listOfText text = .ok (before ++ g.fill c :: after) ↔ s = c.sql := by
      rw [list, ← ofSpelling?_eq_some_iff]
      cases ofSpelling? s with
      | none => simp
      | some d => simp [g.fill_injective.eq_iff]
    refine ⟨accepts, fun c h => ?_, fun other => ?_⟩
    · rw [(accepts c).1 h, parse_eq_ok_iff, canonical_sql]
    · have unknown : ofSpelling? s = none := by
        rw [Option.eq_none_iff_forall_ne_some]
        exact fun c h => other c (ofSpelling?_eq_some_iff.1 h)
      rw [list, unknown]
  · intro g before after sound s c accepted
    have spelling : canonical s = c.sql := by
      rcases accepted with h | ⟨v, named, h⟩
      · exact parse_eq_ok_iff.1 h
      · rw [ofJson?_of_named named, ofSpelling?_eq_some_iff] at h
        rw [h, canonical_sql]
    rw [spelling]
    exact ⟨c.sql_mem_spellings, Statement.ofClauses_fill sound g c⟩

/-- A no-break space and a tab around small letters, two blanks inside, and a long s; the first letter
of a JSON text as an escape, and a small letter in the second of two conditions. -/
theorem tables_agree_blanks_and_letters :
    parse "\u00A0is not\t" = .ok .notSame ∧ parse "\u00A0is not\t" = parse "IS NOT" ∧
      parse "IS  NOT" ≠ .ok .notSame ∧ parse "Iſ" ≠ .ok .same ∧
      listOfText "[[\"WHERE\",\"a\",\"\\u0049S\",null]]" = .ok [.filter ⟨"a", .same, .null⟩] ∧
      listOfText "[\x7b\"whereBlocks\":[[\"b\",\"<>\",1],[\"a\",\"Is\",null]],\"type\":\"AND\"\x7d]" =
        .error (.invalidClause .malformedList) ∧
      Statement.ofClauses [.deleteFrom "t", .filter ⟨"a", .notSame, .null⟩] =
        .ok ⟨"DELETE FROM `t` WHERE a IS NOT ?", [.null]⟩ := by
  obtain ⟨table, variants, -, json, resolved⟩ := tables_agree
  have spelling : canonical "\u00A0is not\t" = notSame.sql := by decide
  have inner : canonical "IS  NOT" ≠ notSame.sql := by decide
  have long : canonical "Iſ" ≠ same.sql := by decide
  have variant : Text.Variant "IS NOT".toList "\u00A0is not\t".toList :=
    ⟨['\u00A0'], "is not".toList, ['\t'], by decide, List.forall_mem_singleton.2 rfl,
      List.forall_mem_singleton.2 rfl, by decide⟩
  have read : parse "\u00A0is not\t" = .ok .notSame := (table _ .notSame).1.2 spelling
  refine ⟨read, variants _ _ variant, mt (table _ _).1.1 inner, mt (table _ _).1.1 long, ?_, ?_, ?_⟩
  · have place : (Gap.filter "a" .null).Spelled (.string "IS")
        (.array [.string "WHERE", .string "a", .string "IS", .null]) :=
      .array (.filter (v := .null) rfl)
    refine ((json _ "IS" _ .string _ [] _ [] [] [] ?_ rfl rfl place).1 .same).2 rfl
    refine Json.ofText?_of_isText (Json.isText_ofList ?_) (by decide)
    decide +kernel
  · have first : [Json.array [.string "b", .string "<>", .number (.integer 1)]].mapM
        Condition.ofJson? = some [⟨"b", .unequal, .integer 1⟩] := rfl
    have condition : Condition.SpelledWith (.string "Is") "a" .null
        (.array [.string "a", .string "Is", .null]) :=
      .array (v := .null) rfl
    have place : (Gap.filterAll [⟨"b", .unequal, .integer 1⟩] "a" .null []).Spelled (.string "Is")
        (.object [("whereBlocks", .array [.array [.string "b", .string "<>", .number (.integer 1)],
          .array [.string "a", .string "Is", .null]]), ("type", .string "AND")]) :=
      .object (.filterAll (by decide) first rfl condition) ⟨[], .swap .., List.forall_mem_nil _⟩
    refine (json _ "Is" _ .string _ [] _ [] [] [] ?_ rfl rfl place).2.2 fun c => ?_
    · refine Json.ofText?_of_isText (Json.isText_ofList ?_) (by decide)
      decide +kernel
    · cases c <;> decide
  · have statement := (resolved (.filter "a" .null) [.deleteFrom "t"] [] (by decide) _ _ (.inl read)).2
    rw [spelling] at statement
    exact statement

end Comparator

end BoundSql
