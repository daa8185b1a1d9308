import BoundSql.Json.Tree
import BoundSql.Proofs.Json.Lexing

/-!
# Documents are read back from their text

A document is read back from its tokens when not too many arrays and objects stand inside each other,
and otherwise refused (`ofTokens?_tokens_eq`), and its tokens from its text, since between two words
of a document there is always a comma or a colon (`apart_tokens`).  So a document is read back from its text if it is no
deeper than the reader allows and its numbers are legible (`ofText?_text`).
-/

namespace BoundSql.Json

/-! ## Depth -/

mutual

/-- The number of arrays and objects that stand inside each other. -/
def depth : Json → Nat
  | .array items => itemsDepth items + 1
  | .object members => membersDepth members + 1
  | _ => 0

/-- The greatest depth of the items of an array. -/
def itemsDepth : List Json → Nat
  | [] => 0
  | v :: items => max (depth v) (itemsDepth items)

/-- The greatest depth of the members of an object. -/
def membersDepth : List (String × Json) → Nat
  | [] => 0
  | (_, v) :: members => max (depth v) (membersDepth members)

end

theorem itemsDepth_le {n : Nat} {items : List Json} (h : ∀ v ∈ items, v.depth ≤ n) :
    itemsDepth items ≤ n := by
  induction items with
  | nil => exact Nat.zero_le n
  | cons v items ih =>
    rw [List.forall_mem_cons] at h
    exact Nat.max_le.2 ⟨h.1, ih h.2⟩

theorem membersDepth_le {n : Nat} {members : List (String × Json)}
    (h : ∀ m ∈ members, m.2.depth ≤ n) : membersDepth members ≤ n := by
  induction members with
  | nil => exact Nat.zero_le n
  | cons m members ih =>
    rw [List.forall_mem_cons] at h
    exact Nat.max_le.2 ⟨h.1, ih h.2⟩

/-! ## Words of a document -/

theorem apart_append_cons {t : Token} (h : ¬ t.IsWord) {ts us : List Token} :
    Apart (ts ++ t :: us) ↔ Apart ts ∧ Apart us := by
  unfold Apart
  rw [List.isChain_append, List.isChain_cons]
  constructor
  · rintro ⟨hts, hus, -⟩
    exact ⟨hts, hus.2⟩
  · rintro ⟨hts, hus⟩
    refine ⟨hts, ⟨fun _ _ word => absurd word h, hus⟩, ?_⟩
    rintro x - y hy - word
    rw [List.head?_cons, Option.mem_some_iff] at hy
    exact h (hy ▸ word)

theorem apart_cons {t : Token} (h : ¬ t.IsWord) {ts : List Token} :
    Apart (t :: ts) ↔ Apart ts := by
  unfold Apart
  rw [List.isChain_cons]
  exact and_iff_right fun _ _ word => absurd word h

mutual

theorem apart_tokens : (v : Json) → Apart v.tokens
  | .null | .bool _ | .number _ | .string _ => .singleton _
  | .array items => by
    rw [tokens, List.cons_append, apart_cons (t := .openArray) nofun,
      apart_append_cons (t := .closeArray) nofun]
    exact ⟨apart_itemTokens items, .nil⟩
  | .object members => by
    rw [tokens, List.cons_append, apart_cons (t := .openObject) nofun,
      apart_append_cons (t := .closeObject) nofun]
    exact ⟨apart_memberTokens members, .nil⟩

theorem apart_itemTokens : (items : List Json) → Apart (itemTokens items)
  | [] => .nil
  | [v] => apart_tokens v
  | v :: w :: items => by
    rw [itemTokens, apart_append_cons (t := .comma) nofun]
    exact ⟨apart_tokens v, apart_itemTokens (w :: items)⟩

theorem apart_memberTokens : (members : List (String × Json)) → Apart (memberTokens members)
  | [] => .nil
  | [(k, v)] => by
    rw [memberTokens, apart_cons (t := .string _) nofun, apart_cons (t := .colon) nofun]
    exact apart_tokens v
  | (k, v) :: m :: members => by
    rw [memberTokens, apart_cons (t := .string _) nofun, apart_cons (t := .colon) nofun,
      apart_append_cons (t := .comma) nofun]
    exact ⟨apart_tokens v, apart_memberTokens (m :: members)⟩

end

/-! ## Reading tokens -/

namespace Reader

/-- One token is read at a time. -/
theorem foldlM_cons_of_step {r r' : Reader} {t : Token} (h : step? r t = some r')
    (ts : List Token) : (t :: ts).foldlM step? r = ts.foldlM step? r' := by
  rw [List.foldlM_cons, h]
  rfl

/-- The first item of an array is read like any other, since it does not begin with the end of the
array. -/
theorem foldlM_firstItem (v : Json) (items : List Json) (stack : List Frame) (ts : List Token) :
    (itemTokens (v :: items) ++ ts).foldlM step? (.firstItem stack) =
      (itemTokens (v :: items) ++ ts).foldlM step? (.value (.array [] :: stack)) := by
  have begins : ∃ t us, itemTokens (v :: items) = t :: us ∧ t ≠ .closeArray := by
    cases items <;> cases v <;> simp [itemTokens, tokens]
  obtain ⟨t, us, h, ht⟩ := begins
  rw [h, List.cons_append, List.foldlM_cons, List.foldlM_cons]
  simp only [step?, if_neg ht]

/-- The first member of an object is read like any other. -/
theorem foldlM_firstKey (m : String × Json) (members : List (String × Json)) (stack : List Frame)
    (ts : List Token) :
    (memberTokens (m :: members) ++ ts).foldlM step? (.firstKey stack) =
      (memberTokens (m :: members) ++ ts).foldlM step? (.key [] stack) := by
  have begins : ∃ us, memberTokens (m :: members) = .string m.1.toList :: us := by
    cases members <;> exact ⟨_, rfl⟩
  obtain ⟨us, h⟩ := begins
  rw [h]
  rfl

/-- The name of a member and the colon after it. -/
theorem foldlM_key (key : String) (read : List (String × Json)) (stack : List Frame)
    (ts : List Token) :
    (.string key.toList :: .colon :: ts).foldlM step? (.key read stack) =
      ts.foldlM step? (.value (.object read key :: stack)) := by
  have name : step? (.key read stack) (.string key.toList) = some (.colon read key stack) := by
    rw [step?, key?, String.ofList_toList]
  have colon : step? (.colon read key stack) .colon = some (.value (.object read key :: stack)) :=
    rfl
  rw [foldlM_cons_of_step name, foldlM_cons_of_step colon]

/-- A token that cannot be read ends the reading. -/
theorem foldlM_cons_of_refused {r : Reader} {t : Token} (h : step? r t = none)
    (ts : List Token) : (t :: ts).foldlM step? r = none := by
  rw [List.foldlM_cons, h]
  rfl

mutual

/-- A document is read off its tokens, whatever is open before and follows after it, if what is open
already and what is still to be opened stays within the limit together; otherwise it is refused. -/
theorem foldlM_tokens : (v : Json) → (stack : List Frame) → stack.length ≤ depthLimit →
    (ts : List Token) →
    (v.tokens ++ ts).foldlM step? (.value stack) =
      if stack.length + v.depth ≤ depthLimit then ts.foldlM step? (.complete v stack) else none
  | .null, _, h, ts | .bool _, _, h, ts | .number _, _, h, ts =>
    (foldlM_cons_of_step rfl ts).trans (if_pos h).symm
  | .string s, stack, h, ts => by
    have step : step? (.value stack) (.string s.toList) = some (.complete (.string s) stack) := by
      rw [step?, value?, String.ofList_toList]
    exact (foldlM_cons_of_step step ts).trans (if_pos h).symm
  | .array items, stack, _, ts => by
    rw [tokens, List.cons_append, List.cons_append, List.append_assoc, List.singleton_append, depth]
    by_cases room : stack.length < depthLimit
    · have opening : step? (.value stack) .openArray = some (.firstItem stack) := if_pos room
      rw [foldlM_cons_of_step opening]
      cases items with
      | nil =>
        rw [itemsDepth, if_pos (Nat.succ_le_of_lt room)]
        exact foldlM_cons_of_step rfl ts
      | cons v items =>
        rw [foldlM_firstItem,
          foldlM_itemTokens (v :: items) [] stack (List.cons_ne_nil _ _) room]
        rfl
    · have refused : step? (.value stack) .openArray = none := if_neg room
      rw [foldlM_cons_of_refused refused, if_neg (by omega)]
  | .object members, stack, _, ts => by
    rw [tokens, List.cons_append, List.cons_append, List.append_assoc, List.singleton_append, depth]
    by_cases room : stack.length < depthLimit
    · have opening : step? (.value stack) .openObject = some (.firstKey stack) := if_pos room
      rw [foldlM_cons_of_step opening]
      cases members with
      | nil =>
        rw [membersDepth, if_pos (Nat.succ_le_of_lt room)]
        exact foldlM_cons_of_step rfl ts
      | cons m members =>
        rw [foldlM_firstKey,
          foldlM_memberTokens (m :: members) [] stack (List.cons_ne_nil _ _) room]
        rfl
    · have refused : step? (.value stack) .openObject = none := if_neg room
      rw [foldlM_cons_of_refused refused, if_neg (by omega)]

/-- The items of an array that is open, and its end. -/
theorem foldlM_itemTokens : (items read : List Json) → (stack : List Frame) → items ≠ [] →
    stack.length < depthLimit → (ts : List Token) →
    (itemTokens items ++ .closeArray :: ts).foldlM step? (.value (.array read :: stack)) =
      if stack.length + (itemsDepth items + 1) ≤ depthLimit then
        ts.foldlM step? (.complete (.array (read.reverse ++ items)) stack)
      else none
  | [], _, _, nonempty, _, _ => absurd rfl nonempty
  | [v], read, stack, _, room, ts => by
    rw [itemTokens, foldlM_tokens v (.array read :: stack) room, List.length_cons, itemsDepth,
      itemsDepth, Nat.max_zero, Nat.add_right_comm, ← List.reverse_cons]
    exact if_congr Iff.rfl (foldlM_cons_of_step rfl ts) rfl
  | v :: w :: items, read, stack, _, room, ts => by
    have comma : step? (.complete v (.array read :: stack)) .comma =
        some (.value (.array (v :: read) :: stack)) := rfl
    rw [itemTokens, List.append_assoc, foldlM_tokens v (.array read :: stack) room,
      List.cons_append, foldlM_cons_of_step comma,
      foldlM_itemTokens (w :: items) (v :: read) stack (List.cons_ne_nil _ _) room,
      List.reverse_cons, List.append_assoc, List.singleton_append, ← ite_and,
      List.length_cons, itemsDepth.eq_2 v]
    exact if_congr (by omega) rfl rfl

/-- The members of an object that is open, and its end. -/
theorem foldlM_memberTokens : (members read : List (String × Json)) → (stack : List Frame) →
    members ≠ [] → stack.length < depthLimit → (ts : List Token) →
    (memberTokens members ++ .closeObject :: ts).foldlM step? (.key read stack) =
      if stack.length + (membersDepth members + 1) ≤ depthLimit then
        ts.foldlM step? (.complete (.object (read.reverse ++ members)) stack)
      else none
  | [], _, _, nonempty, _, _ => absurd rfl nonempty
  | [(k, v)], read, stack, _, room, ts => by
    rw [memberTokens, List.cons_append, List.cons_append, foldlM_key,
      foldlM_tokens v (.object read k :: stack) room, List.length_cons, membersDepth,
      membersDepth, Nat.max_zero, Nat.add_right_comm, ← List.reverse_cons]
    exact if_congr Iff.rfl (foldlM_cons_of_step rfl ts) rfl
  | (k, v) :: m :: members, read, stack, _, room, ts => by
    have comma : step? (.complete v (.object read k :: stack)) .comma =
        some (.key ((k, v) :: read) stack) := rfl
    rw [memberTokens, List.cons_append, List.cons_append, foldlM_key, List.append_assoc,
      foldlM_tokens v (.object read k :: stack) room, List.cons_append, foldlM_cons_of_step comma,
      foldlM_memberTokens (m :: members) ((k, v) :: read) stack (List.cons_ne_nil _ _) room,
      List.reverse_cons, List.append_assoc, List.singleton_append, ← ite_and,
      List.length_cons, membersDepth.eq_2 k v]
    exact if_congr (by omega) rfl rfl

end

end Reader

/-- A document is read off its tokens when it is not too deep, and only then. -/
theorem ofTokens?_tokens_eq (v : Json) :
    ofTokens? v.tokens = if v.depth ≤ Reader.depthLimit then some v else none := by
  have read := Reader.foldlM_tokens v [] (Nat.zero_le _) []
  rw [List.append_nil, List.length_nil, Nat.zero_add] at read
  rw [ofTokens?, read]
  split_ifs <;> rfl

theorem ofTokens?_tokens {v : Json} (h : v.depth ≤ Reader.depthLimit) :
    ofTokens? v.tokens = some v := by
  rw [ofTokens?_tokens_eq, if_pos h]

/-! ## Reading text -/

/-- The texts of the numbers in the document denote them. -/
def Legible (v : Json) : Prop := ∀ t ∈ v.tokens, t.Legible

/-- A document that is not too deep is read back from its text if its numbers are. -/
theorem ofText?_text {v : Json} (legible : v.Legible) (h : v.depth ≤ Reader.depthLimit) :
    ofText? v.text = some v := by
  rw [ofText?, Json.tokens?, text, String.toList_ofList,
    tokens?_flatMap_text legible (apart_tokens v), Option.bind_some, ofTokens?_tokens h]

/-! ## Documents that can be read back -/

/-- A document with legible numbers that is at most so deep. -/
structure Readable (n : Nat) (v : Json) : Prop where
  legible : v.Legible
  depth_le : v.depth ≤ n

theorem readable_string (n : Nat) (s : String) : (string s).Readable n :=
  ⟨List.forall_mem_singleton.2 trivial, Nat.zero_le n⟩

theorem legible_itemTokens {items : List Json} (h : ∀ v ∈ items, v.Legible) :
    ∀ t ∈ itemTokens items, t.Legible := by
  induction items with
  | nil => exact List.forall_mem_nil _
  | cons v items ih =>
    rw [List.forall_mem_cons] at h
    cases items with
    | nil => exact h.1
    | cons w items =>
      rw [itemTokens, List.forall_mem_append, List.forall_mem_cons]
      exact ⟨h.1, trivial, ih h.2⟩

theorem legible_memberTokens {members : List (String × Json)} (h : ∀ m ∈ members, m.2.Legible) :
    ∀ t ∈ memberTokens members, t.Legible := by
  induction members with
  | nil => exact List.forall_mem_nil _
  | cons m members ih =>
    rw [List.forall_mem_cons] at h
    cases members with
    | nil =>
      rw [memberTokens, List.forall_mem_cons, List.forall_mem_cons]
      exact ⟨trivial, trivial, h.1⟩
    | cons m' members =>
      rw [memberTokens, List.forall_mem_cons, List.forall_mem_cons, List.forall_mem_append,
        List.forall_mem_cons]
      exact ⟨trivial, trivial, h.1, trivial, ih h.2⟩

theorem readable_array {n : Nat} {items : List Json} (h : ∀ v ∈ items, v.Readable n) :
    (array items).Readable (n + 1) := by
  constructor
  · rw [Legible, tokens, List.forall_mem_append, List.forall_mem_cons]
    exact ⟨⟨trivial, legible_itemTokens fun v hv => (h v hv).legible⟩,
      List.forall_mem_singleton.2 trivial⟩
  · rw [depth]
    exact Nat.succ_le_succ (itemsDepth_le fun v hv => (h v hv).depth_le)

theorem readable_object {n : Nat} {members : List (String × Json)}
    (h : ∀ m ∈ members, m.2.Readable n) : (object members).Readable (n + 1) := by
  constructor
  · rw [Legible, tokens, List.forall_mem_append, List.forall_mem_cons]
    exact ⟨⟨trivial, legible_memberTokens fun m hm => (h m hm).legible⟩,
      List.forall_mem_singleton.2 trivial⟩
  · rw [depth]
    exact Nat.succ_le_succ (membersDepth_le fun m hm => (h m hm).depth_le)

end BoundSql.Json
