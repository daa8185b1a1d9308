import BoundSql.Proofs.Json.Document
import Mathlib.Data.List.Forall2

/-!
# Texts of documents

A document has many texts: white space is free, and so is the spelling of strings and numbers.  All
of them consist of the tokens of the document (`IsText`), and a text of a document that is not too
deep is read as the document (`ofText?_of_isText`).  In the other direction, what the reader has
consumed can be told from its state (`Reader.consumed_step`), so whatever it reads as a document is
a text of the document (`isText_of_ofText?`).  Texts can be put together to texts of arrays and
objects (`isText_array`, `isText_object`).
-/

namespace BoundSql.Json

/-- The tokens of the text are those of the document. -/
def IsText (v : Json) (s : String) : Prop := tokens? s = some v.tokens

/-- A text that is given as a list of characters does not have to be decoded. -/
theorem isText_ofList {v : Json} {cs : List Char} (h : Mode.tokens? .outside cs = some v.tokens) :
    v.IsText (.ofList cs) :=
  (congrArg (Mode.tokens? .outside) String.toList_ofList).trans h

theorem ofText?_eq_of_isText {v : Json} {s : String} (h : v.IsText s) :
    ofText? s = if v.depth ≤ Reader.depthLimit then some v else none := by
  rw [ofText?, h, Option.bind_some, ofTokens?_tokens_eq]

theorem ofText?_of_isText {v : Json} {s : String} (h : v.IsText s)
    (fits : v.depth ≤ Reader.depthLimit) : ofText? s = some v := by
  rw [ofText?_eq_of_isText h, if_pos fits]

/-! ## Commas -/

/-- The tokens of a member of an object. -/
def tokensOfMember (m : String × Json) : List Token := .string m.1.toList :: .colon :: m.2.tokens

theorem itemTokens_eq (items : List Json) :
    itemTokens items = [.comma].intercalate (items.map tokens) := by
  induction items with
  | nil => rfl
  | cons v items ih =>
    cases items with
    | nil => exact List.intercalate_singleton.symm
    | cons w items =>
      rw [itemTokens, ih]
      simp only [List.map_cons, List.intercalate_cons_cons, List.append_assoc,
        List.singleton_append]

theorem memberTokens_eq (members : List (String × Json)) :
    memberTokens members = [.comma].intercalate (members.map tokensOfMember) := by
  induction members with
  | nil => rfl
  | cons m members ih =>
    cases members with
    | nil => exact List.intercalate_singleton.symm
    | cons n members =>
      rw [memberTokens, ih]
      simp only [List.map_cons, List.intercalate_cons_cons, tokensOfMember, List.append_assoc,
        List.cons_append, List.nil_append]

/-- Groups of tokens with a comma after each of them. -/
def commaAfter (groups : List (List Token)) : List Token := groups.flatMap fun g => g ++ [.comma]

theorem commaAfter_concat (groups : List (List Token)) (g : List Token) :
    commaAfter (groups ++ [g]) = commaAfter groups ++ g ++ [.comma] := by
  simp [commaAfter]

theorem intercalate_concat (groups : List (List Token)) (g : List Token) :
    [.comma].intercalate (groups ++ [g]) = commaAfter groups ++ g := by
  rw [Text.intercalate_append_cons, List.flatMap_nil, List.append_nil]
  rfl

/-! ## What the reader has consumed -/

/-- The tokens of what an open array or object holds so far. -/
def Frame.consumed : Frame → List Token
  | .array items => .openArray :: commaAfter (items.reverse.map tokens)
  | .object members key =>
    .openObject :: commaAfter (members.reverse.map tokensOfMember) ++ [.string key.toList, .colon]

namespace Reader

/-- The tokens of all that is open, from the outermost array or object on. -/
def opened : List Frame → List Token
  | [] => []
  | f :: stack => opened stack ++ f.consumed

/-- The tokens that have been read. -/
def consumed : Reader → List Token
  | .value stack => opened stack
  | .firstItem stack => opened stack ++ [.openArray]
  | .firstKey stack => opened stack ++ [.openObject]
  | .key members stack =>
    opened stack ++ .openObject :: commaAfter (members.reverse.map tokensOfMember)
  | .colon members name stack =>
    opened stack ++ .openObject :: commaAfter (members.reverse.map tokensOfMember) ++
      [.string name.toList]
  | .complete v stack => opened stack ++ v.tokens

theorem consumed_value? {stack : List Frame} {t : Token} {r : Reader}
    (h : value? stack t = some r) : r.consumed = opened stack ++ [t] := by
  cases t with
  | null =>
    obtain rfl := Option.some.inj h
    rfl
  | bool b =>
    obtain rfl := Option.some.inj h
    rfl
  | number n =>
    obtain rfl := Option.some.inj h
    rfl
  | string s =>
    obtain rfl := Option.some.inj h
    rw [consumed, tokens, String.toList_ofList]
  | openArray =>
    obtain ⟨-, ⟨⟩⟩ := Option.ite_none_right_eq_some.1 h
    rfl
  | openObject =>
    obtain ⟨-, ⟨⟩⟩ := Option.ite_none_right_eq_some.1 h
    rfl
  | closeArray => exact nomatch h
  | closeObject => exact nomatch h
  | comma => exact nomatch h
  | colon => exact nomatch h

theorem consumed_key? {members : List (String × Json)} {stack : List Frame} {t : Token} {r : Reader}
    (h : key? members stack t = some r) :
    r.consumed =
      opened stack ++ .openObject :: commaAfter (members.reverse.map tokensOfMember) ++ [t] := by
  cases t with
  | string s =>
    obtain rfl := Option.some.inj h
    rw [consumed, String.toList_ofList]
  | _ => exact nomatch h

theorem consumed_complete? {v : Json} {stack : List Frame} {t : Token} {r : Reader}
    (h : complete? v stack t = some r) : r.consumed = opened stack ++ v.tokens ++ [t] := by
  unfold complete? at h
  split at h
  · obtain rfl := Option.some.inj h
    simp [consumed, opened, Frame.consumed, commaAfter_concat]
  · obtain rfl := Option.some.inj h
    simp [consumed, opened, Frame.consumed, tokens, itemTokens_eq, intercalate_concat]
  · obtain rfl := Option.some.inj h
    simp [consumed, opened, Frame.consumed, commaAfter_concat, tokensOfMember]
  · obtain rfl := Option.some.inj h
    simp [consumed, opened, Frame.consumed, tokens, memberTokens_eq, intercalate_concat,
      tokensOfMember]
  · exact nomatch h

/-- One token is consumed at a time. -/
theorem consumed_step {r r' : Reader} {t : Token} (h : step? r t = some r') :
    r'.consumed = r.consumed ++ [t] := by
  cases r with
  | value stack => exact consumed_value? h
  | firstItem stack =>
    simp only [step?] at h
    split_ifs at h with ht
    · obtain rfl := Option.some.inj h
      rw [ht]
      simp [consumed, tokens, itemTokens]
    · exact consumed_value? h
  | firstKey stack =>
    simp only [step?] at h
    split_ifs at h with ht
    · obtain rfl := Option.some.inj h
      rw [ht]
      simp [consumed, tokens, memberTokens]
    · exact consumed_key? h
  | key members stack => exact consumed_key? h
  | colon members name stack =>
    obtain ⟨rfl, ⟨⟩⟩ := Option.ite_none_right_eq_some.1 h
    simp [consumed, opened, Frame.consumed]
  | complete v stack => exact consumed_complete? h

theorem consumed_foldlM {ts : List Token} {r r' : Reader} (h : ts.foldlM step? r = some r') :
    r'.consumed = r.consumed ++ ts := by
  induction ts generalizing r with
  | nil =>
    obtain rfl := Option.some.inj h
    exact (List.append_nil _).symm
  | cons t ts ih =>
    rw [List.foldlM_cons] at h
    obtain ⟨next, step, rest⟩ := Option.bind_eq_some_iff.1 h
    rw [ih rest, consumed_step step, List.append_assoc, List.singleton_append]

end Reader

theorem eq_tokens_of_ofTokens? {ts : List Token} {v : Json} (h : ofTokens? ts = some v) :
    ts = v.tokens := by
  unfold ofTokens? at h
  split at h
  · next w read =>
    obtain rfl := Option.some.inj h
    exact (Reader.consumed_foldlM read).symm
  · exact nomatch h

/-- Whatever is read as a document is a text of it. -/
theorem isText_of_ofText? {v : Json} {s : String} (h : ofText? s = some v) : v.IsText s := by
  obtain ⟨ts, split, read⟩ := Option.bind_eq_some_iff.1 h
  rw [IsText, split, eq_tokens_of_ofTokens? read]

/-! ## Texts put together -/

namespace Mode

/-- A text that is complete in itself is read before whatever follows it, unless that would go on
with its last word. -/
theorem tokens?_append {mode : Mode} {s t : List Char} {ts : List Token}
    (h : tokens? mode s = some ts) (ends : EndsWord t) :
    tokens? mode (s ++ t) = (tokens? .outside t).map (ts ++ ·) := by
  induction s generalizing mode ts with
  | nil =>
    cases mode with
    | outside =>
      obtain rfl := Option.some.inj h
      exact (Option.map_id' ..).symm
    | word read =>
      obtain ⟨token, word, rfl⟩ := Option.map_eq_some_iff.1 h
      exact tokens?_word_end word ends
    | _ => cases h
  | cons c s ih =>
    rw [tokens?] at h
    split at h
    · cases h
    · next next us step =>
      obtain ⟨vs, rest, rfl⟩ := Option.map_eq_some_iff.1 h
      rw [List.cons_append, tokens?_cons step, ih rest, Option.map_map]
      simp only [Function.comp_def, List.append_assoc]

/-- A character that is a token on its own can follow any text that is complete. -/
theorem tokens?_append_cons {s : List Char} {ts : List Token} (h : tokens? .outside s = some ts)
    {c : Char} {t : Token} (apart : inWord c = false) (single : start? c = some (.outside, [t]))
    (rest : List Char) :
    tokens? .outside (s ++ c :: rest) = (tokens? .outside rest).map (ts ++ t :: ·) := by
  have ends : EndsWord (c :: rest) := Text.endsWord_cons apart rest
  have step : step? .outside c = some (.outside, [t]) := single
  rw [tokens?_append h ends, tokens?_cons step, Option.map_map]
  rfl

/-- Texts with commas between them, and the bracket that closes them. -/
theorem tokens?_intercalate_append_cons {groups : List (List Token)} {texts : List (List Char)}
    (h : List.Forall₂ (fun g s => tokens? .outside s = some g) groups texts) {c : Char} {t : Token}
    (apart : inWord c = false) (single : start? c = some (.outside, [t])) (rest : List Char) :
    tokens? .outside ([','].intercalate texts ++ c :: rest) =
      (tokens? .outside rest).map ([.comma].intercalate groups ++ t :: ·) := by
  induction h with
  | nil =>
    have step : step? .outside c = some (.outside, [t]) := single
    exact tokens?_cons step rest
  | @cons g s gs ss first others ih =>
    cases others with
    | nil =>
      rw [List.intercalate_singleton, List.intercalate_singleton]
      exact tokens?_append_cons first apart single rest
    | cons second others =>
      rw [List.intercalate_cons_cons, List.intercalate_cons_cons, List.append_assoc,
        List.append_assoc, List.singleton_append, tokens?_append_cons first rfl rfl, ih,
        Option.map_map]
      simp only [Function.comp_def, List.append_assoc, List.cons_append, List.nil_append]

end Mode

/-- The text of an array whose items have the given texts. -/
def arrayText (items : List String) : String := "[" ++ ",".intercalate items ++ "]"

/-- The text of an object, from the texts of the name and the value of each member. -/
def objectText (members : List (String × String)) : String :=
  "\x7b" ++ ",".intercalate (members.map fun m => m.1 ++ ":" ++ m.2) ++ "\x7d"

theorem isText_array {items : List Json} {texts : List String}
    (h : List.Forall₂ IsText items texts) : (array items).IsText (arrayText texts) := by
  have parts : List.Forall₂ (fun g s => Mode.tokens? .outside s = some g) (items.map tokens)
      (texts.map String.toList) :=
    List.forall₂_map_left_iff.2 (List.forall₂_map_right_iff.2 h)
  have written : (arrayText texts).toList =
      '[' :: ([','].intercalate (texts.map String.toList) ++ [']']) := by
    simp [arrayText, String.toList_intercalate]
  have opening : Mode.step? .outside '[' = some (.outside, [.openArray]) := rfl
  rw [IsText, tokens?, written, Mode.tokens?_cons opening,
    Mode.tokens?_intercalate_append_cons parts rfl rfl, tokens, itemTokens_eq]
  rfl

theorem isText_object {members : List (String × Json)} {texts : List (String × String)}
    (h : List.Forall₂ (fun m t => (string m.1).IsText t.1 ∧ m.2.IsText t.2) members texts) :
    (object members).IsText (objectText texts) := by
  have parts : List.Forall₂ (fun g s => Mode.tokens? .outside s = some g)
      (members.map tokensOfMember)
      ((texts.map fun m => m.1 ++ ":" ++ m.2).map String.toList) := by
    rw [List.map_map, List.forall₂_map_left_iff, List.forall₂_map_right_iff]
    refine h.imp fun m t hm => ?_
    have joined : ((fun m : String × String => m.1 ++ ":" ++ m.2) t).toList =
        t.1.toList ++ ':' :: t.2.toList := by
      simp
    have value : Mode.tokens? .outside t.2.toList = some m.2.tokens := hm.2
    rw [Function.comp_apply, joined, Mode.tokens?_append_cons hm.1 rfl rfl, value]
    rfl
  have written : (objectText texts).toList = '\x7b' ::
      ([','].intercalate ((texts.map fun m => m.1 ++ ":" ++ m.2).map String.toList) ++
        ['\x7d']) := by
    simp [objectText, String.toList_intercalate]
  have opening : Mode.step? .outside '\x7b' = some (.outside, [.openObject]) := rfl
  rw [IsText, tokens?, written, Mode.tokens?_cons opening,
    Mode.tokens?_intercalate_append_cons parts rfl rfl, tokens, memberTokens_eq]
  rfl

/-- The text of an array or an object is put together from texts that are read as its parts. -/
inductive Composed : Json → String → Prop
  | array {items : List Json} {texts : List String}
    (h : List.Forall₂ (fun v t => ofText? t = some v) items texts) :
    Composed (.array items) (arrayText texts)
  | object {members : List (String × Json)} {texts : List (String × String)}
    (h : List.Forall₂ (fun m t => ofText? t.1 = some (.string m.1) ∧ ofText? t.2 = some m.2)
      members texts) :
    Composed (.object members) (objectText texts)

theorem Composed.isText {v : Json} {s : String} (h : Composed v s) : v.IsText s := by
  cases h with
  | array h => exact isText_array (h.imp fun _ _ => isText_of_ofText?)
  | object h =>
    exact isText_object (h.imp fun _ _ hm => ⟨isText_of_ofText? hm.1, isText_of_ofText? hm.2⟩)

end BoundSql.Json
