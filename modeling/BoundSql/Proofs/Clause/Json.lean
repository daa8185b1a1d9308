import BoundSql.Clause.Json
import BoundSql.Proofs.Comparator
import BoundSql.Proofs.Json.Document
import BoundSql.Proofs.Row
import BoundSql.Proofs.Statement.Written
import Mathlib.Data.List.Forall2

/-!
# Clause lists are read back from JSON

The members of a clause are its tag and one member for each field of its kind, in order, so reading
them finds the tag and the fields (`Clause.ofJson?_toJson`).  A list of clauses is a document of depth
four at most, and if none of its values is a floating point number all of its numbers are legible.
So the list is read back from its text, with all columns in their order (`Clause.listOfText_text`).
-/

namespace BoundSql

/-! ## Reading back -/

/-- Members that are each read are read as a list. -/
theorem mapM_of_forall₂ {α β : Type} {decode : β → Option α} {as : List α} {bs : List β}
    (h : List.Forall₂ (fun a b => decode b = some a) as bs) : bs.mapM decode = some as := by
  induction h with
  | nil => rfl
  | cons first _ ih =>
    rw [List.mapM_cons, first, ih]
    rfl

/-- What is written member by member is read back member by member. -/
theorem mapM_map_of_inverse {α β : Type} {encode : α → β} {decode : β → Option α}
    (h : ∀ a, decode (encode a) = some a) (as : List α) : (as.map encode).mapM decode = some as :=
  mapM_of_forall₂ (List.forall₂_map_right_iff.2 (List.forall₂_same.2 fun a _ => h a))

theorem Value.ofJson?_toJson (v : Value) : ofJson? v.toJson = some v := by
  cases v <;> rfl

theorem Row.ofJson?_toJson (r : Row) : ofJson? r.toJson = some r := by
  have entries : (r.entries.map fun e => (e.1, e.2.toJson)).mapM
      (fun m => (Value.ofJson? m.2).map fun v => (m.1, v)) = some r.entries :=
    mapM_map_of_inverse (fun e => by rw [Value.ofJson?_toJson]; rfl) r.entries
  rw [toJson, ofJson?, entries]
  exact congrArg some r.ofList_entries

theorem Json.strings?_map_string (strings : List String) :
    strings? (.array (strings.map .string)) = some strings := by
  have read (s : String) : string? (string s) = some s := rfl
  exact mapM_map_of_inverse read strings

namespace Condition

theorem fields?_toMembers (c : Condition) :
    Json.fields? fieldNames c.toMembers =
      some [.string c.column, .string c.comparator.spelling, c.value.toJson] := rfl

theorem ofFields?_toMembers (c : Condition) :
    ofFields? [.string c.column, .string c.comparator.spelling, c.value.toJson] = some c := by
  have comparator : Comparator.ofJson? (.string c.comparator.spelling) = some c.comparator :=
    c.comparator.ofSpelling?_spelling
  rw [ofFields?, comparator, Value.ofJson?_toJson]
  rfl

theorem ofJson?_toMembers (c : Condition) : ofJson? (.object c.toMembers) = some c := by
  rw [ofJson?, fields?_toMembers, Option.bind_eq_bind, Option.bind_some, ofFields?_toMembers]

end Condition

namespace Clause

theorem ne_type_of_mem_toMembers (c : Clause) : ∀ m ∈ c.toMembers, m.1 ≠ "type" := by
  cases c <;> simp [toMembers, Condition.toMembers]

/-- The only tag of a clause is that of its kind. -/
theorem only?_type (c : Clause) (tag : Json) :
    Json.only? ["type"] (("type", tag) :: c.toMembers) = some tag := by
  have others : c.toMembers.filter (fun m => ["type"].contains m.1) = [] :=
    List.filter_eq_nil_iff.2 fun m hm => by simpa using c.ne_type_of_mem_toMembers m hm
  rw [Json.only?, List.filter_cons_of_pos rfl, others]

theorem fields?_toMembers (c : Clause) :
    Json.fields? c.kind.fieldNames c.toMembers = some (c.toMembers.map Prod.snd) := by
  cases c <;> rfl

theorem ofFields?_toMembers (c : Clause) :
    ofFields? c.kind (c.toMembers.map Prod.snd) = some c := by
  cases c with
  | select table columns =>
    simp only [kind, toMembers, List.map_cons, List.map_nil, ofFields?, Json.strings?_map_string]
    rfl
  | insertInto table row =>
    simp only [kind, toMembers, List.map_cons, List.map_nil, ofFields?, Row.ofJson?_toJson]
    rfl
  | update table row =>
    simp only [kind, toMembers, List.map_cons, List.map_nil, ofFields?, Row.ofJson?_toJson]
    rfl
  | deleteFrom table => rfl
  | innerJoin table tableColumn column => rfl
  | filter c => exact congrArg (Option.map filter) c.ofFields?_toMembers
  | filterAll conditions =>
    exact congrArg (Option.map filterAll)
      (mapM_map_of_inverse Condition.ofJson?_toMembers conditions)
  | returning columns => exact congrArg (Option.map returning) (Json.strings?_map_string columns)
  | unknown => rfl

theorem ofJson?_toJson (c : Clause) : ofJson? c.toJson = some c := by
  have others : (("type", Json.string c.kind.tag) :: c.toMembers).filter (fun m => m.1 ≠ "type") =
      c.toMembers := by
    rw [List.filter_cons_of_neg (by simp)]
    exact List.filter_eq_self.2 fun m hm => by simpa using c.ne_type_of_mem_toMembers m hm
  rw [toJson, ofJson?, c.only?_type]
  simp only [Json.string?, Option.bind_eq_bind, Option.bind_some, Kind.ofTag_tag, others,
    c.fields?_toMembers, c.ofFields?_toMembers]

theorem listOfJson?_listToJson (cs : List Clause) : listOfJson? (listToJson cs) = some cs :=
  mapM_map_of_inverse ofJson?_toJson cs

end Clause

/-! ## Documents -/

/-- A value that is no floating point number is legible. -/
theorem Value.readable_toJson {v : Value} (h : v.kind ≠ .real) (n : Nat) :
    v.toJson.Readable n := by
  cases v with
  | null => exact ⟨List.forall_mem_singleton.2 trivial, Nat.zero_le n⟩
  | integer m => exact ⟨List.forall_mem_singleton.2 (Json.Token.legible_integer m), Nat.zero_le n⟩
  | real x => exact absurd rfl h
  | text s => exact Json.readable_string n s

theorem Json.readable_strings (n : Nat) (strings : List String) :
    (array (strings.map .string)).Readable (n + 1) :=
  readable_array (List.forall_mem_map.2 fun s _ => readable_string n s)

theorem Row.readable_toJson {r : Row} (h : ∀ v ∈ r.values, v.kind ≠ .real) (n : Nat) :
    r.toJson.Readable (n + 1) :=
  Json.readable_object (List.forall_mem_map.2 fun e he =>
    Value.readable_toJson (h e.2 (List.mem_map_of_mem he)) n)

theorem Condition.readable_toMembers {c : Condition} (h : c.value.kind ≠ .real) (n : Nat) :
    ∀ m ∈ c.toMembers, m.2.Readable n := by
  simp only [toMembers, List.forall_mem_cons]
  exact ⟨Json.readable_string n _, Json.readable_string n _, Value.readable_toJson h n,
    List.forall_mem_nil _⟩

namespace Clause

theorem readable_toMembers {c : Clause} (h : ∀ v ∈ c.params, v.kind ≠ .real) :
    ∀ m ∈ c.toMembers, m.2.Readable 2 := by
  have string := Json.readable_string 2
  cases c with
  | select table columns =>
    exact List.forall_mem_cons.2 ⟨string table,
      List.forall_mem_singleton.2 (Json.readable_strings 1 columns)⟩
  | insertInto table row =>
    exact List.forall_mem_cons.2 ⟨string table,
      List.forall_mem_singleton.2 (Row.readable_toJson h 1)⟩
  | update table row =>
    exact List.forall_mem_cons.2 ⟨string table,
      List.forall_mem_singleton.2 (Row.readable_toJson h 1)⟩
  | deleteFrom table => exact List.forall_mem_singleton.2 (string table)
  | innerJoin table tableColumn column =>
    exact List.forall_mem_cons.2 ⟨string table, List.forall_mem_cons.2 ⟨string tableColumn,
      List.forall_mem_singleton.2 (string column)⟩⟩
  | filter c => exact Condition.readable_toMembers (h c.value List.mem_cons_self) 2
  | filterAll conditions =>
    refine List.forall_mem_singleton.2 (Json.readable_array (List.forall_mem_map.2 fun c hc => ?_))
    exact Json.readable_object
      (Condition.readable_toMembers (h c.value (List.mem_map_of_mem hc)) 0)
  | returning columns => exact List.forall_mem_singleton.2 (Json.readable_strings 1 columns)
  | unknown => exact List.forall_mem_nil _

/-- A list of clauses is four arrays and objects deep at most: the list, a clause, its conditions
and one of them. -/
theorem readable_listToJson {cs : List Clause} (h : ∀ v ∈ listParams cs, v.kind ≠ .real) :
    (listToJson cs).Readable 4 := by
  refine Json.readable_array (List.forall_mem_map.2 fun c hc => Json.readable_object ?_)
  exact List.forall_mem_cons.2 ⟨Json.readable_string 2 _,
    readable_toMembers fun v hv => h v (List.mem_flatMap_of_mem hc hv)⟩

/-! ## Clause lists -/

/-- A list of clauses without floating point numbers is read back from its text, and in this text the
tag of every clause is that of its kind. -/
theorem listOfText_text {cs : List Clause} (h : ∀ v ∈ listParams cs, v.kind ≠ .real) :
    listOfText (listToJson cs).text = .ok cs ∧
      ∃ items, Json.ofText? (listToJson cs).text = some (.array items) ∧
        List.Forall₂ (fun c item => ∃ members, item = Json.object members ∧
          Json.only? ["type"] members = some (.string c.kind.tag)) cs items := by
  have readable := readable_listToJson h
  have read : Json.ofText? (listToJson cs).text = some (listToJson cs) :=
    Json.ofText?_text readable.legible (Nat.le_trans readable.depth_le (by decide))
  constructor
  · rw [listOfText, read, Option.bind_eq_bind, Option.bind_some, listOfJson?_listToJson]
  · refine ⟨cs.map toJson, read, List.forall₂_map_right_iff.2 (List.forall₂_same.2 fun c _ => ?_)⟩
    exact ⟨_, rfl, c.only?_type _⟩

/-- Both ends of the integers and null, with quotes, escapes and brackets in the texts. -/
theorem listOfText_text_hostile_texts :
    (∀ v ∈ listParams
        [.insertInto "a\\\"" (.ofList [("z", .integer Int64.minValue),
            ("a", .integer Int64.maxValue), ("", .null)]),
          .unknown, .filter ⟨"é\n", .notSame, .text "\"],[\x7d\t"⟩],
      v.kind ≠ .real) ∧
      listOfText (listToJson
          [.insertInto "a\\\"" (.ofList [("z", .integer Int64.minValue),
              ("a", .integer Int64.maxValue), ("", .null)]),
            .unknown, .filter ⟨"é\n", .notSame, .text "\"],[\x7d\t"⟩]).text =
        .ok
          [.insertInto "a\\\"" (.ofList [("z", .integer Int64.minValue),
              ("a", .integer Int64.maxValue), ("", .null)]),
            .unknown, .filter ⟨"é\n", .notSame, .text "\"],[\x7d\t"⟩] := by
  have noReal : ∀ v ∈ listParams
      [.insertInto "a\\\"" (.ofList [("z", .integer Int64.minValue),
          ("a", .integer Int64.maxValue), ("", .null)]),
        .unknown, .filter ⟨"é\n", .notSame, .text "\"],[\x7d\t"⟩],
      v.kind ≠ .real := by decide
  exact ⟨noReal, (listOfText_text noReal).1⟩

end Clause

end BoundSql
