import BoundSql.Proofs.Clause.Json
import BoundSql.Proofs.Json.Text

/-!
# Spellings of a clause

A clause can be spelled as an object or as an array.  In an object its tag and its fields stand in
any order and among other members, as long as the names of these mean nothing to a clause of its
kind (`Json.Holds`); in an array the tag and the fields stand in order.  The same holds of each
condition of a conjunction, and its list of conditions has two names.  All spellings of a clause are
read as the clause (`Clause.ofJson?_of_spelled`), from any text (`Clause.listOfText_of_spelled`).
-/

namespace BoundSql

/-! ## Fields in any order -/

namespace Json

/-- The members of an object are the fields and others whose names are not known, in any order. -/
def Holds (known : List String) (fields members : List (String × Json)) : Prop :=
  ∃ others, members.Perm (fields ++ others) ∧ ∀ m ∈ others, m.1 ∉ known

/-- A field is found when no other member has one of its names. -/
theorem only?_of_perm {names : List String} {members others : List (String × Json)}
    {m : String × Json} (h : members.Perm (m :: others)) (named : m.1 ∈ names)
    (unknown : ∀ o ∈ others, o.1 ∉ names) : only? names members = some m.2 := by
  have found : (members.filter fun m => names.contains m.1).Perm [m] := by
    have rest : others.filter (fun m => names.contains m.1) = [] :=
      List.filter_eq_nil_iff.2 fun o ho => by simpa using unknown o ho
    have kept := h.filter fun m => names.contains m.1
    rwa [List.filter_cons_of_pos (by simpa using named), rest] at kept
  rw [only?, List.perm_singleton.1 found]

theorem mem_flatten_of_named {names : List (List String)} {fields : List (String × Json)}
    (named : List.Forall₂ (fun n m => m.1 ∈ n) names fields) :
    ∀ m ∈ fields, m.1 ∈ names.flatten := by
  induction named with
  | nil => exact List.forall_mem_nil _
  | cons hm _ ih =>
    rw [List.flatten_cons, List.forall_mem_cons]
    exact ⟨List.mem_append_left _ hm, fun m' hm' => List.mem_append_right _ (ih m' hm')⟩

/-- Fields with distinct names are found in whatever order they stand. -/
theorem fields?_of_holds {names : List (List String)} {fields members : List (String × Json)}
    (named : List.Forall₂ (fun n m => m.1 ∈ n) names fields) (distinct : names.flatten.Nodup)
    (holds : Holds names.flatten fields members) :
    fields? names members = some (fields.map Prod.snd) := by
  obtain ⟨others, perm, unknown⟩ := holds
  induction named generalizing others with
  | nil => rfl
  | @cons n m names fields hm named ih =>
    rw [List.flatten_cons] at distinct unknown
    obtain ⟨-, distinctNames, apart⟩ := List.nodup_append.1 distinct
    -- The other fields are unknown members to the first one, and the first is one to them.
    have first : only? n members = some m.2 := by
      refine only?_of_perm perm hm fun o ho hn => ?_
      rcases List.mem_append.1 ho with hfield | hother
      · exact apart o.1 hn o.1 (mem_flatten_of_named named o hfield) rfl
      · exact unknown o hother (List.mem_append_left _ hn)
    have rest : fields? names members = some (fields.map Prod.snd) := by
      refine ih distinctNames (m :: others) (perm.trans List.perm_middle.symm) ?_
      rw [List.forall_mem_cons]
      exact ⟨fun hnames => apart m.1 hm m.1 hnames rfl,
        fun o ho hnames => unknown o ho (List.mem_append_right _ hnames)⟩
    rw [fields?] at rest ⊢
    rw [List.mapM_cons, first, rest]
    rfl

end Json

/-! ## Conditions -/

namespace Condition

/-- The spellings of a condition. -/
inductive Spelled (c : Condition) : Json → Prop
  | object {members : List (String × Json)}
    (h : Json.Holds fieldNames.flatten c.toMembers members) : Spelled c (.object members)
  | array : Spelled c (.array (c.toMembers.map Prod.snd))

theorem ofJson?_of_spelled {c : Condition} {v : Json} (h : c.Spelled v) : ofJson? v = some c := by
  cases h with
  | object holds =>
    have named : List.Forall₂ (fun n (m : String × Json) => m.1 ∈ n) fieldNames c.toMembers := by
      simp [fieldNames, toMembers]
    rw [ofJson?, Json.fields?_of_holds named (by decide) holds, Option.bind_eq_bind,
      Option.bind_some]
    exact c.ofFields?_toMembers
  | array => exact c.ofFields?_toMembers

end Condition

/-! ## Clauses -/

namespace Clause

/-- The fields of a clause, by name: those that are written, or, for a conjunction, its conditions
in any spelling and under either name. -/
inductive Fields : Clause → List (String × Json) → Prop
  | written (c : Clause) : Fields c c.toMembers
  | conditions {cs : List Condition} {items : List Json} {name : String}
    (named : name ∈ ["conditions", "whereBlocks"])
    (spelled : List.Forall₂ Condition.Spelled cs items) :
    Fields (.filterAll cs) [(name, .array items)]

/-- The spellings of a clause. -/
inductive Spelled (c : Clause) : Json → Prop
  | object {fields members : List (String × Json)} (h : c.Fields fields)
    (holds : Json.Holds ("type" :: c.kind.fieldNames.flatten)
      (("type", .string c.kind.tag) :: fields) members) :
    Spelled c (.object members)
  | array {fields : List (String × Json)} (h : c.Fields fields) :
    Spelled c (.array (.string c.kind.tag :: fields.map Prod.snd))

theorem Fields.named {c : Clause} {fields : List (String × Json)} (h : c.Fields fields) :
    List.Forall₂ (fun n m => m.1 ∈ n) c.kind.fieldNames fields := by
  cases h with
  | written c => cases c <;> simp [kind, Kind.fieldNames, toMembers, Condition.fieldNames,
      Condition.toMembers]
  | conditions named spelled => exact .cons named .nil

theorem Fields.ofFields? {c : Clause} {fields : List (String × Json)} (h : c.Fields fields) :
    ofFields? c.kind (fields.map Prod.snd) = some c := by
  cases h with
  | written c => exact c.ofFields?_toMembers
  | conditions named spelled =>
    exact congrArg (Option.map filterAll)
      (mapM_of_forall₂ (spelled.imp fun _ _ => Condition.ofJson?_of_spelled))

/-- The names of the members of a clause, with that of its tag, are distinct. -/
theorem Kind.nodup_fieldNames (k : Kind) : ("type" :: k.fieldNames.flatten).Nodup := by
  cases k <;> decide

/-- A clause is read off the fields of the kind that its tag names. -/
theorem ofJson?_object_of_only? {members : List (String × Json)} {tag : String}
    (h : Json.only? ["type"] members = some (.string tag)) :
    ofJson? (.object members) =
      (Json.fields? (Kind.ofTag tag).fieldNames (members.filter fun m => m.1 ≠ "type")).bind
        (ofFields? (Kind.ofTag tag)) := by
  rw [ofJson?, h]
  rfl

/-- A clause is read off its fields in whatever order they stand, with the tag among them. -/
theorem ofJson?_of_holds {k : Kind} {fields members : List (String × Json)}
    (named : List.Forall₂ (fun n m => m.1 ∈ n) k.fieldNames fields)
    (holds : Json.Holds ("type" :: k.fieldNames.flatten) (("type", .string k.tag) :: fields)
      members) : ofJson? (.object members) = ofFields? k (fields.map Prod.snd) := by
  obtain ⟨others, perm, unknown⟩ := holds
  obtain ⟨typeless, distinct⟩ := List.nodup_cons.1 k.nodup_fieldNames
  rw [List.cons_append] at perm
  -- No other member has the name of the tag, so taking the tag away leaves all of them.
  have untagged : ∀ m ∈ fields ++ others, m.1 ≠ "type" := by
    rw [List.forall_mem_append]
    exact ⟨fun m hm e => typeless (e ▸ Json.mem_flatten_of_named named m hm),
      fun m hm e => unknown m hm (e ▸ List.mem_cons_self)⟩
  have tag : Json.only? ["type"] members = some (.string k.tag) :=
    Json.only?_of_perm perm List.mem_cons_self fun m hm hn =>
      untagged m hm (List.mem_singleton.1 hn)
  have rest : Json.Holds k.fieldNames.flatten fields (members.filter fun m => m.1 ≠ "type") := by
    refine ⟨others, ?_, fun m hm hn => unknown m hm (List.mem_cons_of_mem _ hn)⟩
    have all : (fields ++ others).filter (fun m => decide (m.1 ≠ "type")) = fields ++ others :=
      List.filter_eq_self.2 fun m hm => decide_eq_true (untagged m hm)
    have kept := perm.filter fun m => decide (m.1 ≠ "type")
    rwa [List.filter_cons_of_neg (by simp), all] at kept
  rw [ofJson?_object_of_only? tag, Kind.ofTag_tag, Json.fields?_of_holds named distinct rest,
    Option.bind_some]

theorem ofJson?_of_spelled {c : Clause} {v : Json} (h : c.Spelled v) : ofJson? v = some c := by
  cases h with
  | array h => rw [ofJson?, Kind.ofTag_tag, h.ofFields?]
  | object h holds => rw [ofJson?_of_holds h.named holds, h.ofFields?]

theorem listOfJson?_of_spelled {cs : List Clause} {items : List Json}
    (h : List.Forall₂ Spelled cs items) : listOfJson? (.array items) = some cs :=
  mapM_of_forall₂ (h.imp fun _ _ => ofJson?_of_spelled)

/-- Spellings of clauses are read as the clauses from any text that is read as an array of them, and
so from every text that is put together from readable parts, if all of it is not too deep to be
read. -/
theorem listOfText_of_spelled {cs : List Clause} {items : List Json}
    (h : List.Forall₂ Spelled cs items) :
    (∀ s, Json.ofText? s = some (.array items) → listOfText s = .ok cs) ∧
      ∀ texts, List.Forall₂ Json.Composed items texts →
        (Json.array items).depth ≤ Json.Reader.depthLimit →
        listOfText (Json.arrayText texts) = .ok cs := by
  have read (s : String) (hs : Json.ofText? s = some (.array items)) : listOfText s = .ok cs := by
    rw [listOfText, hs, Option.bind_eq_bind, Option.bind_some, listOfJson?_of_spelled h]
  refine ⟨read, fun texts composed fits => read _ (Json.ofText?_of_isText ?_ fits)⟩
  exact Json.isText_array (composed.imp fun _ _ => Json.Composed.isText)

set_option maxRecDepth 2000 in
/-- The tag comes last, after members that mean nothing; one condition is an array and the other an
object with its members in reverse. -/
theorem listOfText_of_spelled_reversed_members :
    List.Forall₂ Spelled
        [.filterAll [⟨"a", .equal, .integer 1⟩, ⟨"c", .notSame, .text "b"⟩], .deleteFrom "t"]
        [.object [("x", .number (.integer 2)),
            ("x", .array [.bool true, .object [("type", .null)]]),
            ("whereBlocks", .array [.array [.string "a", .string "=", .number (.integer 1)],
              .object [("z", .array []), ("value", .string "b"), ("comparator", .string "IS NOT"),
                ("column", .string "c")]]),
            ("type", .string "AND")],
          .array [.string "DELETE_FROM", .string "t"]] ∧
      listOfText "[\x7b\"x\":2, \"x\":[true,\x7b\"type\":null\x7d],
          \"whereBlocks\":[[\"a\",\"=\",1],
          \x7b\"z\":[],\"value\":\"\\u0062\",\"comparator\":\"IS NOT\",\"column\":\"c\"\x7d],
          \"type\":\"AND\"\x7d, [\"DELETE_FROM\",\"t\"]]" =
        .ok [.filterAll [⟨"a", .equal, .integer 1⟩, ⟨"c", .notSame, .text "b"⟩],
          .deleteFrom "t"] := by
  refine (and_iff_left_of_imp fun spelled => (listOfText_of_spelled spelled).1 _ ?_).2 ?_
  · refine Json.ofText?_of_isText ?_ (by decide)
    -- As a list of characters, the text does not have to be decoded.
    refine (congrArg (Json.Mode.tokens? .outside) String.toList_ofList).trans ?_
    decide +kernel
  · have conditions : List.Forall₂ Condition.Spelled
        [⟨"a", .equal, .integer 1⟩, ⟨"c", .notSame, .text "b"⟩] _ :=
      .cons .array (.cons (.object ⟨[("z", .array [])], List.reverse_perm _, by decide⟩) .nil)
    have named : "whereBlocks" ∈ ["conditions", "whereBlocks"] := by decide
    refine .cons (.object (.conditions named conditions)
      ⟨[("x", .array [.bool true, .object [("type", .null)]]), ("x", .number (.integer 2))],
        ?_, ?_⟩) (.cons (.array (.written _)) .nil)
    · exact List.reverse_perm (_ :: _ :: _ :: [_])
    · decide

end Clause

end BoundSql
