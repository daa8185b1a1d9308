import BoundSql.Proofs.Clause.Spelling
import BoundSql.Proofs.Row.Writing

/-!
# Members that are repeated

An object can give a name more than once, and what that means depends on the name.  The tag of a
clause and the fields of its kind must be there once, and so must the fields of each of its
conditions: an object that repeats one (`Clause.Repeating`) is no clause
(`Clause.ofJson?_eq_none_of_repeating`), even if the members agree.  Members with other names mean
nothing, so the clause stays the same when all of them are taken away (`Clause.ofJson?_trim`).
Finally, the columns that a clause writes are entries of a row, which keeps the first place and the
last value of each of them (`Clause.ofJson?_of_writes`).
-/

namespace BoundSql

/-! ## Reading one after the other -/

/-- A list of which one member cannot be read cannot be read. -/
theorem mapM_eq_none_of_mem {α β : Type} {decode : β → Option α} {b : β} {bs : List β}
    (mem : b ∈ bs) (refused : decode b = none) : bs.mapM decode = none := by
  induction mem with
  | head bs =>
    rw [List.mapM_cons, refused]
    rfl
  | @tail c bs _ ih =>
    rw [List.mapM_cons, ih]
    cases decode c <;> rfl

theorem mapM_congr {α β : Type} {decode decode' : β → Option α} {bs : List β}
    (h : ∀ b ∈ bs, decode b = decode' b) : bs.mapM decode = bs.mapM decode' := by
  induction bs with
  | nil => rfl
  | cons b bs ih =>
    rw [List.forall_mem_cons] at h
    rw [List.mapM_cons, List.mapM_cons, h.1, ih h.2]

/-! ## Members -/

namespace Json

/-- Two members of an object, wherever they stand, have one of the given names each. -/
def Twice (names : List String) (members : List (String × Json)) : Prop :=
  ∃ m m', [m, m'].Sublist members ∧ m.1 ∈ names ∧ m'.1 ∈ names

/-- The members of an object that have one of the given names. -/
def named (names : List String) (members : List (String × Json)) : List (String × Json) :=
  members.filter fun m => names.contains m.1

theorem mem_named {names : List String} {members : List (String × Json)} {m : String × Json} :
    m ∈ named names members ↔ m ∈ members ∧ m.1 ∈ names := by
  rw [named, List.mem_filter, List.contains_iff_mem]

theorem Twice.filter {names : List String} {members : List (String × Json)}
    (h : Twice names members) {p : String × Json → Bool} (kept : ∀ m, m.1 ∈ names → p m = true) :
    Twice names (members.filter p) := by
  obtain ⟨m, m', both, hm, hm'⟩ := h
  have rest := both.filter p
  rw [List.filter_cons_of_pos (kept m hm), List.filter_cons_of_pos (kept m' hm')] at rest
  exact ⟨m, m', rest, hm, hm'⟩

/-- A member that is repeated is not found. -/
theorem only?_eq_none_of_twice {names : List String} {members : List (String × Json)}
    (h : Twice names members) : only? names members = none := by
  obtain ⟨m, m', both, -, -⟩ := h.filter fun m hm => List.contains_iff_mem.2 hm
  unfold only?
  split
  · next single =>
    rw [single] at both
    exact absurd both.length_le (Nat.not_succ_le_self 1)
  · rfl

/-- What is found is the value of every member that has one of the names. -/
theorem only?_eq_some_of_mem {names : List String} {members : List (String × Json)}
    {m : String × Json} {v : Json} (h : only? names members = some v) (mem : m ∈ members)
    (hm : m.1 ∈ names) : v = m.2 := by
  have found : m ∈ named names members := mem_named.2 ⟨mem, hm⟩
  unfold only? at h
  split at h
  · next single =>
    rw [named, single, List.mem_singleton] at found
    rw [found]
    exact (Option.some.inj h).symm
  · cases h

theorem fields?_eq_none_of_twice {fields : List (List String)} {names : List String}
    {members : List (String × Json)} (field : names ∈ fields) (h : Twice names members) :
    fields? fields members = none :=
  mapM_eq_none_of_mem field (only?_eq_none_of_twice h)

theorem fields?_singleton (names : List String) (members : List (String × Json)) :
    fields? [names] members = (only? names members).map fun v => [v] := by
  rw [fields?, List.mapM_cons, List.mapM_nil]
  cases only? names members <;> rfl

/-- Members that have none of the names do not matter. -/
theorem only?_named {names known : List String} (h : names ⊆ known)
    (members : List (String × Json)) :
    only? names (named known members) = only? names members := by
  have same : (named known members).filter (fun m => names.contains m.1) =
      members.filter fun m => names.contains m.1 := by
    rw [named, List.filter_filter]
    refine List.filter_congr fun m _ => ?_
    exact Bool.and_eq_left_iff_imp.2 fun hm => List.contains_iff_mem.2 (h (List.contains_iff_mem.1 hm))
  rw [only?, same]
  rfl

theorem fields?_named {fields : List (List String)} {known : List String}
    (h : fields.flatten ⊆ known) (members : List (String × Json)) :
    fields? fields (named known members) = fields? fields members :=
  mapM_congr fun _ hn =>
    only?_named (fun _ hx => h (List.mem_flatten_of_mem hn hx)) members

/-- The values of the members, changed. -/
def mapValues (f : Json → Json) (members : List (String × Json)) : List (String × Json) :=
  members.map fun m => (m.1, f m.2)

theorem filter_mapValues (f : Json → Json) (p : String → Bool) (members : List (String × Json)) :
    (mapValues f members).filter (fun m => p m.1) =
      mapValues f (members.filter fun m => p m.1) :=
  List.filter_map

theorem only?_mapValues (f : Json → Json) (names : List String) (members : List (String × Json)) :
    only? names (mapValues f members) = (only? names members).map f := by
  unfold only?
  rw [filter_mapValues f fun n => names.contains n]
  -- Changing values leaves as many members as there were.
  generalize (members.filter fun m => names.contains m.1) = found
  match found with
  | [] | [_] | _ :: _ :: _ => rfl

theorem fields?_mapValues (f : Json → Json) (fields : List (List String))
    (members : List (String × Json)) :
    fields? fields (mapValues f members) = (fields? fields members).map (List.map f) := by
  induction fields with
  | nil => rfl
  | cons names fields ih =>
    unfold fields? at ih ⊢
    rw [List.mapM_cons, List.mapM_cons, ih, only?_mapValues]
    cases only? names members with
    | none => rfl
    | some v => cases fields.mapM fun n => only? n members <;> rfl

end Json

/-! ## Conditions -/

namespace Condition

/-- Objects that repeat a field of a condition. -/
inductive Repeating : Json → Prop
  | field {members : List (String × Json)} {names : List String} (field : names ∈ fieldNames)
    (twice : Json.Twice names members) : Repeating (.object members)

theorem ofJson?_eq_none_of_repeating {v : Json} (h : Repeating v) : ofJson? v = none := by
  cases h with
  | field field twice =>
    rw [ofJson?, Json.fields?_eq_none_of_twice field twice]
    rfl

/-- The condition without the members that mean nothing. -/
def trim : Json → Json
  | .object members => .object (Json.named fieldNames.flatten members)
  | v => v

theorem ofJson?_trim (v : Json) : ofJson? (trim v) = ofJson? v := by
  cases v with
  | object members => rw [trim, ofJson?, ofJson?, Json.fields?_named (List.Subset.refl _)]
  | _ => rfl

end Condition

/-! ## Clauses -/

namespace Clause

/-- Objects and arrays that repeat the tag of a clause, a field of its kind, or a field of one of its
conditions. -/
inductive Repeating : Json → Prop
  | tag {members : List (String × Json)} (twice : Json.Twice ["type"] members) :
    Repeating (.object members)
  | field {members : List (String × Json)} {tag : String} {names : List String}
    (tagged : ("type", .string tag) ∈ members) (field : names ∈ (Kind.ofTag tag).fieldNames)
    (twice : Json.Twice names members) : Repeating (.object members)
  | condition {members : List (String × Json)} {name : String} {conditions : List Json}
    {c : Json} (tagged : ("type", .string Kind.filterAll.tag) ∈ members)
    (named : name ∈ ["conditions", "whereBlocks"]) (member : (name, .array conditions) ∈ members)
    (mem : c ∈ conditions) (repeating : Condition.Repeating c) : Repeating (.object members)
  | listed {fields conditions : List Json} {c : Json} (field : .array conditions ∈ fields)
    (mem : c ∈ conditions) (repeating : Condition.Repeating c) :
    Repeating (.array (.string Kind.filterAll.tag :: fields))

/-- An object with a tag is a clause of the kind that the tag names if it is a clause at all. -/
theorem ofJson?_object_of_tagged {members : List (String × Json)} {tag : String}
    (tagged : ("type", .string tag) ∈ members) :
    ofJson? (.object members) = none ∨
      ofJson? (.object members) =
        (Json.fields? (Kind.ofTag tag).fieldNames (members.filter fun m => m.1 ≠ "type")).bind
          (ofFields? (Kind.ofTag tag)) := by
  cases found : Json.only? ["type"] members with
  | none =>
    left
    rw [ofJson?, found]
    rfl
  | some v =>
    right
    have only : v = .string tag :=
      Json.only?_eq_some_of_mem found tagged (List.mem_singleton.2 rfl)
    exact ofJson?_object_of_only? (found.trans (congrArg some only))

theorem ofFields?_filterAll_cons_cons (v w : Json) (fields : List Json) :
    ofFields? .filterAll (v :: w :: fields) = none := by
  cases v <;> rfl

/-- A conjunction cannot be read if one of its conditions cannot. -/
theorem ofFields?_filterAll_eq_none {fields conditions : List Json} {c : Json}
    (field : .array conditions ∈ fields) (mem : c ∈ conditions)
    (refused : Condition.ofJson? c = none) : ofFields? .filterAll fields = none := by
  match fields with
  | [v] =>
    rw [← List.mem_singleton.1 field, ofFields?, mapM_eq_none_of_mem mem refused]
    rfl
  | v :: w :: fields => exact ofFields?_filterAll_cons_cons v w fields

theorem type_not_mem_of_mem_fieldNames {k : Kind} {names : List String}
    (h : names ∈ k.fieldNames) : "type" ∉ names :=
  fun hn => (List.nodup_cons.1 k.nodup_fieldNames).1 (List.mem_flatten_of_mem h hn)

theorem ofJson?_eq_none_of_repeating {v : Json} (h : Repeating v) : ofJson? v = none := by
  cases h with
  | tag twice =>
    rw [ofJson?, Json.only?_eq_none_of_twice twice]
    rfl
  | field tagged field twice =>
    refine (ofJson?_object_of_tagged tagged).elim id fun read => ?_
    -- Taking the tag away leaves both members where they are.
    have left := twice.filter (p := fun m => decide (m.1 ≠ "type")) fun m hm =>
      decide_eq_true fun e => type_not_mem_of_mem_fieldNames field (e ▸ hm)
    rw [read, Json.fields?_eq_none_of_twice field left, Option.bind_none]
  | @condition members name conditions c tagged named member mem repeating =>
    refine (ofJson?_object_of_tagged tagged).elim id fun read => ?_
    rw [Kind.ofTag_tag] at read
    have refused := Condition.ofJson?_eq_none_of_repeating repeating
    have left : (name, Json.array conditions) ∈ members.filter fun m => m.1 ≠ "type" := by
      have other : name ≠ "type" := fun e =>
        type_not_mem_of_mem_fieldNames (k := .filterAll) List.mem_cons_self (e ▸ named)
      exact List.mem_filter.2 ⟨member, decide_eq_true other⟩
    rw [read, Kind.fieldNames, Json.fields?_singleton]
    cases found : Json.only? ["conditions", "whereBlocks"]
        (members.filter fun m => m.1 ≠ "type") with
    | none => rfl
    | some v =>
      have only : v = .array conditions := Json.only?_eq_some_of_mem found left named
      rw [only, Option.map_some, Option.bind_some]
      exact ofFields?_filterAll_eq_none List.mem_cons_self mem refused
  | listed field mem repeating =>
    rw [ofJson?, Kind.ofTag_tag]
    exact ofFields?_filterAll_eq_none field mem (Condition.ofJson?_eq_none_of_repeating repeating)

/-- A field of the kind without the members that mean nothing. -/
def trimField : Kind → Json → Json
  | .filterAll, .array conditions => .array (conditions.map Condition.trim)
  | _, v => v

theorem ofFields?_map_trimField (k : Kind) (fields : List Json) :
    ofFields? k (fields.map (trimField k)) = ofFields? k fields := by
  by_cases conjunction : k = .filterAll
  · subst conjunction
    match fields with
    | [] => rfl
    | v :: w :: fields =>
      rw [ofFields?_filterAll_cons_cons]
      exact ofFields?_filterAll_cons_cons _ _ _
    | [.array conditions] =>
      have conditionwise : (conditions.map Condition.trim).mapM Condition.ofJson? =
          conditions.mapM Condition.ofJson? := by
        rw [List.mapM_map]
        exact mapM_congr fun c _ => Condition.ofJson?_trim c
      exact congrArg (Option.map filterAll) conditionwise
    | [.null] | [.bool _] | [.number _] | [.string _] | [.object _] => rfl
  · have same : trimField k = id := by
      funext v
      unfold trimField
      split
      · exact absurd rfl conjunction
      · rfl
    rw [same, List.map_id]

/-- The clause without the members that mean nothing to its kind. -/
def trim : Json → Json
  | .object members =>
    match Json.only? ["type"] members with
    | some (.string tag) =>
      .object (Json.mapValues (trimField (Kind.ofTag tag))
        (Json.named ("type" :: (Kind.ofTag tag).fieldNames.flatten) members))
    | _ => .object members
  | .array (.string tag :: fields) =>
    .array (.string tag :: fields.map (trimField (Kind.ofTag tag)))
  | v => v

theorem trimField_string (k : Kind) (s : String) : trimField k (.string s) = .string s := by
  cases k <;> rfl

theorem ofJson?_object_trim (members : List (String × Json)) :
    ofJson? (trim (.object members)) = ofJson? (.object members) := by
  rw [trim]
  split
  · next tag found =>
    -- The tag is taken away from the members that mean something or from all of them.
    have untagged : (Json.named ("type" :: (Kind.ofTag tag).fieldNames.flatten) members).filter
          (fun m => decide (m.1 ≠ "type")) =
        Json.named ("type" :: (Kind.ofTag tag).fieldNames.flatten)
          (members.filter fun m => decide (m.1 ≠ "type")) :=
      List.filter_comm _ _ _
    have found' : Json.only? ["type"] (Json.mapValues (trimField (Kind.ofTag tag))
        (Json.named ("type" :: (Kind.ofTag tag).fieldNames.flatten) members)) =
          some (.string tag) := by
      rw [Json.only?_mapValues, Json.only?_named (by simp), found, Option.map_some,
        trimField_string]
    rw [ofJson?_object_of_only? found, ofJson?_object_of_only? found',
      Json.filter_mapValues _ fun n => decide (n ≠ "type"), untagged, Json.fields?_mapValues,
      Json.fields?_named (List.subset_cons_self _ _), Option.bind_map]
    exact congrArg _ (funext (ofFields?_map_trimField _))
  · rfl

theorem ofJson?_trim : (v : Json) → ofJson? (trim v) = ofJson? v
  | .object members => ofJson?_object_trim members
  | .array (.string tag :: fields) => by
    rw [trim, ofJson?, ofJson?, ofFields?_map_trimField]
  | .null | .bool _ | .number _ | .string _ | .array [] => rfl
  | .array (.null :: _) | .array (.bool _ :: _) | .array (.number _ :: _) | .array (.array _ :: _)
  | .array (.object _ :: _) => rfl

end Clause

/-! ## Columns -/

/-- Members whose values are values of the database are read as a row, and the row holds them as
entries that are written in order. -/
theorem Row.ofJson?_object {entries : List (String × Value)} {columns : List (String × Json)}
    (h : List.Forall₂ (fun e m => m.1 = e.1 ∧ Value.ofJson? m.2 = some e.2) entries columns) :
    ofJson? (.object columns) = some (.ofList entries) := by
  have read : columns.mapM (fun m => (Value.ofJson? m.2).map fun v => (m.1, v)) = some entries := by
    refine mapM_of_forall₂ (h.imp fun e m hm => ?_)
    rw [hm.1, hm.2]
    rfl
  rw [ofJson?, read]
  rfl

namespace Clause

/-- The spellings of a clause that writes to a table, with the columns as they are given. -/
inductive Writes (k : Kind) (table : String) (columns : List (String × Json)) : Json → Prop
  | object {members : List (String × Json)}
    (holds : Json.Holds ("type" :: k.fieldNames.flatten)
      [("type", .string k.tag), ("table", .string table), ("values", .object columns)] members) :
    Writes k table columns (.object members)
  | array : Writes k table columns (.array [.string k.tag, .string table, .object columns])

/-- The kinds of clauses that write a row, with the clauses. -/
def writers : List (Kind × (String → Row → Clause)) :=
  [(.insertInto, insertInto), (.update, update)]

theorem mem_writers {w : Kind × (String → Row → Clause)} :
    w ∈ writers ↔ w = (.insertInto, insertInto) ∨ w = (.update, update) := by
  simp [writers]

theorem ofJson?_of_writes {w : Kind × (String → Row → Clause)} (hw : w ∈ writers)
    {table : String} {entries : List (String × Value)} {columns : List (String × Json)} {v : Json}
    (h : List.Forall₂ (fun e m => m.1 = e.1 ∧ Value.ofJson? m.2 = some e.2) entries columns)
    (writes : Writes w.1 table columns v) :
    ofJson? v = some (w.2 table (.ofList entries)) := by
  have fields : ofFields? w.1 [.string table, .object columns] =
      some (w.2 table (.ofList entries)) := by
    rcases mem_writers.1 hw with rfl | rfl <;> rw [ofFields?, Row.ofJson?_object h] <;> rfl
  cases writes with
  | array => rw [ofJson?, Kind.ofTag_tag, fields]
  | object holds =>
    refine (ofJson?_of_holds ?_ holds).trans fields
    rcases mem_writers.1 hw with rfl | rfl <;> simp [Kind.fieldNames]

/-! ## Clause lists -/

/-- A list of clauses is read off a text when all of it is read and not too deep. -/
theorem listOfText_of_isText {s : String} {items : List Json} (h : (Json.array items).IsText s)
    (fits : (Json.array items).depth ≤ Json.Reader.depthLimit) :
    listOfText s = (listOfJson? (.array items)).elim (.error (.invalidClause .malformedList)) .ok := by
  rw [listOfText, Json.ofText?_of_isText h fits, Option.bind_eq_bind, Option.bind_some]
  cases listOfJson? (.array items) <;> rfl

/-- A list of clauses is refused if a clause cannot be read, even if the list is too deep to tell. -/
theorem listOfText_of_isText_of_mem {s : String} {items : List Json}
    (h : (Json.array items).IsText s) {item : Json} (mem : item ∈ items)
    (refused : ofJson? item = none) :
    listOfText s = .error (.invalidClause .malformedList) := by
  by_cases fits : (Json.array items).depth ≤ Json.Reader.depthLimit
  · rw [listOfText_of_isText h fits, listOfJson?, mapM_eq_none_of_mem mem refused]
    rfl
  · rw [listOfText, Json.ofText?_eq_of_isText h, if_neg fits]
    rfl

/-- A list is refused when a clause repeats its tag, a field of its kind or a field of one of its
conditions.  Otherwise members do not matter unless they mean something, so they may be repeated
and the list is read as if they were not there.  A column that is repeated among those that a
clause writes keeps its first place and takes its last value. -/
theorem listOfText_of_repeated_members :
    (∀ s items, (Json.array items).IsText s → (∃ item ∈ items, Repeating item) →
        listOfText s = .error (.invalidClause .malformedList)) ∧
      (∀ s s' items items', (Json.array items).IsText s → (Json.array items').IsText s' →
        (Json.array items).depth ≤ Json.Reader.depthLimit →
        (Json.array items').depth ≤ Json.Reader.depthLimit →
        items.map trim = items'.map trim → listOfText s = listOfText s') ∧
      ∀ w ∈ writers, ∀ s table entries columns item before after cs cs',
        (Json.array (before ++ item :: after)).IsText s →
        (Json.array (before ++ item :: after)).depth ≤ Json.Reader.depthLimit →
        listOfJson? (.array before) = some cs → listOfJson? (.array after) = some cs' →
        Writes w.1 table columns item →
        List.Forall₂ (fun e m => m.1 = e.1 ∧ Value.ofJson? m.2 = some e.2) entries columns →
        ∃ row : Row, row.Holds entries ∧ listOfText s = .ok (cs ++ w.2 table row :: cs') := by
  refine ⟨?_, ?_, ?_⟩
  · rintro s items h ⟨item, mem, repeating⟩
    exact listOfText_of_isText_of_mem h mem (ofJson?_eq_none_of_repeating repeating)
  · intro s s' items items' h h' fits fits' same
    have trimmed (items : List Json) :
        listOfJson? (.array (items.map trim)) = listOfJson? (.array items) := by
      rw [listOfJson?, List.mapM_map]
      exact mapM_congr fun v _ => ofJson?_trim v
    rw [listOfText_of_isText h fits, listOfText_of_isText h' fits', ← trimmed items, same, trimmed]
  · intro w hw s table entries columns item before after cs cs' h fits hbefore hafter writes read
    refine ⟨.ofList entries, Row.holds_ofList entries, ?_⟩
    rw [listOfJson?] at hbefore hafter
    rw [listOfText_of_isText h fits, listOfJson?, List.mapM_append, hbefore, List.mapM_cons,
      ofJson?_of_writes hw read writes, hafter]
    rfl

set_option maxRecDepth 2000 in
/-- The table is given twice and agrees; a member that means nothing is given twice; and the first of
three columns is given again. -/
theorem listOfText_of_repeated_members_field_other_column :
    listOfText "[\x7b\"table\":\"t\",\"type\":\"DELETE_FROM\",\"table\":\"t\"\x7d]" =
        .error (.invalidClause .malformedList) ∧
      listOfText "[\x7b\"x\":1,\"type\":\"DELETE_FROM\",\"x\":[],\"table\":\"t\"\x7d]" =
        listOfText "[\x7b\"type\":\"DELETE_FROM\",\"table\":\"t\"\x7d]" ∧
      ∃ row : Row, row.Holds [("a", .integer 1), ("b", .null), ("a", .text "z")] ∧
        listOfText "[[\"UPDATE\",\"t\",\x7b\"a\":1,\"b\":null,\"a\":\"z\"\x7d]]" =
          .ok [.update "t" row] := by
  obtain ⟨refused, ignored, replaced⟩ := listOfText_of_repeated_members
  refine ⟨refused _ [.object [("table", .string "t"), ("type", .string "DELETE_FROM"),
      ("table", .string "t")]] ?_ ⟨_, List.mem_cons_self, ?_⟩, ignored _ _
    [.object [("x", .number (.integer 1)), ("type", .string "DELETE_FROM"), ("x", .array []),
      ("table", .string "t")]]
    [.object [("type", .string "DELETE_FROM"), ("table", .string "t")]] ?_ ?_ (by decide) (by decide)
    ?_, ?_⟩
  · refine Json.isText_ofList ?_
    decide +kernel
  · refine @Repeating.field _ "DELETE_FROM" ["table"] (by simp) (by decide) ?_
    exact ⟨("table", .string "t"), ("table", .string "t"), .cons_cons _ (.cons _ (.refl _)),
      List.mem_cons_self, List.mem_cons_self⟩
  · refine Json.isText_ofList ?_
    decide +kernel
  · refine Json.isText_ofList ?_
    decide +kernel
  · rfl
  · refine replaced (.update, update) (mem_writers.2 (.inr rfl)) _ "t" _
      [("a", .number (.integer 1)), ("b", .null), ("a", .string "z")] _ [] [] [] [] ?_ (by decide)
      rfl rfl .array ?_
    · refine Json.isText_ofList ?_
      decide +kernel
    · simp [Value.ofJson?]

end Clause

end BoundSql
