import BoundSql.Account.Config
import BoundSql.Proofs.Toml.Extension
import BoundSql.Proofs.Toml.Strings
import Mathlib.Data.List.TakeWhile

/-!
# Names of tables in a configuration

A configuration is taken as a text with the header of `tables`, lines below it that name tables, and
any other texts around and between these lines (`Source`).  Without the lines of the names the text is
a document of its own; with them, `tables` has the given names more and all else is the same
(`exists_extends`), wherever the lines stand and however their strings are spelled.  So the names are
read as they are given, and of several blank ones the first in the order user, session, key is refused
(`names_read_or_first_blank`).
-/

namespace BoundSql

namespace Text

theorem trim_eq_nil_iff (s : List Char) : trim s = [] ↔ ∀ c ∈ s, isBlank c = true := by
  rw [trim, List.reverse_eq_nil_iff, List.dropWhile_eq_nil_iff]
  constructor
  · intro h c hc
    rw [← List.takeWhile_append_dropWhile (p := isBlank) (l := s), List.mem_append] at hc
    rcases hc with hc | hc
    · exact List.mem_takeWhile_imp hc
    · exact h c (List.mem_reverse.2 hc)
  · intro h c hc
    exact h c ((List.dropWhile_sublist isBlank).subset (List.mem_reverse.1 hc))

end Text

namespace Account

namespace Table

theorem field_inj {t u : Table} (h : t.field = u.field) : t = u := by
  cases t <;> cases u <;> first | rfl | exact absurd h (by decide)

end Table

namespace Tables

/-- Whether a name is blank: all of its characters, if there are any, are white space. -/
def isBlankName (name : String) : Bool := name.toList.all Text.isBlank

theorem isEmpty_trim (name : String) :
    (Text.trim name.toList).isEmpty = isBlankName name := by
  rw [Bool.eq_iff_iff, List.isEmpty_iff, Text.trim_eq_nil_iff, isBlankName, List.all_eq_true]

end Tables

namespace Config

open Toml (linesOf? linesOf IsBasicString)

/-- A part of a configuration below the header of `tables`. -/
inductive Part
  /-- A line that names a table, with the text of the string that denotes the name. -/
  | name (t : Table) (s : String) (text : List Char)
  /-- Any other lines. -/
  | further (text : List Char)

namespace Part

/-- What is written: a name behind the key of its table, all else as it is. -/
def text : Part → List Char
  | .name t _ text => t.field.toList ++ ' ' :: '=' :: ' ' :: text
  | .further text => text

/-- The name that the part gives to a table, if it does. -/
def given? : Part → Option (Table × String)
  | .name t s _ => some (t, s)
  | .further _ => none

/-- The text of the part, unless it gives a name to a table. -/
def further? : Part → Option (List Char)
  | .name .. => none
  | .further text => some text

end Part

/-- A configuration as it is written: the texts around the header of `tables` and the names below
it, each on lines of its own. -/
structure Source where
  before : List (List Char)
  parts : List Part
  after : List (List Char)

namespace Source

/-- The texts below each other. -/
def joined (texts : List (List Char)) : String := .ofList (['\n'].intercalate texts)

variable (source : Source)

/-- The whole text. -/
def text : String :=
  joined (source.before ++ "[tables]".toList :: (source.parts.map Part.text ++ source.after))

/-- The text without the lines that name tables. -/
def rest : String :=
  joined (source.before ++
    "[tables]".toList :: (source.parts.filterMap Part.further? ++ source.after))

/-- The names that are given, in the order of the text. -/
def names : List (Table × String) := source.parts.filterMap Part.given?

/-- The name of a table: the one that is given to it, or else the default. -/
def nameOf (t : Table) : String := (source.names.lookup t).getD (Tables.default.name t)

/-- The tables with the names that are given, and the defaults for the others. -/
def tables : Tables := ⟨source.nameOf .user, source.nameOf .session, source.nameOf .key⟩

/-- The text is a document that gives a name at most once to each table. -/
structure Wellformed : Prop where
  /-- The names are written as basic strings. -/
  spelled : ∀ t name text, .name t name text ∈ source.parts → IsBasicString name text
  once : (source.names.map Prod.fst).Nodup
  outside : ∀ text ∈ source.before ++ source.after, (linesOf? text).isSome
  /-- No other header comes between the header of `tables` and the names. -/
  inside : ∀ text, .further text ∈ source.parts →
    (linesOf? text).isSome ∧ ∀ line ∈ linesOf text, ∃ path v, line = .pair path v
  /-- All else is a document in which nothing names a table. -/
  rest : ∃ root, Toml.ofText? source.rest = some root ∧ Toml.membersInRange root = true ∧
    ∀ members, root.lookup "tables" = some (.table .header members) →
      ∀ t : Table, members.lookup t.field = none

end Source

/-! ## Reading -/

theorem linesOf?_name (t : Table) {name : String} {text : List Char} (h : IsBasicString name text) :
    linesOf? (Part.name t name text).text = some [.pair [t.field] (.string name)] := by
  obtain ⟨body, rfl, read⟩ := h.exists_tokens?
  have key : t.field.toList.all Toml.Reader.inKey = true := by cases t <;> decide
  have tokens : Toml.Mode.tokens? .outside (t.field.toList ++ ' ' :: '=' :: ' ' :: '"' :: body) =
      some [.bare t.field.toList, .space true, .equals, .space true, .string name.toList false] := by
    have opening : Toml.Mode.run? .outside (t.field.toList ++ [' ', '=', ' ', '"']) =
        some (.opening '"' false,
          [.bare t.field.toList, .space true, .equals, .space true]) := by cases t <;> rfl
    have parts : t.field.toList ++ ' ' :: '=' :: ' ' :: '"' :: body =
        t.field.toList ++ [' ', '=', ' ', '"'] ++ body := by simp
    rw [parts, Toml.Mode.tokens?_append opening, read]
    rfl
  rw [linesOf?, Part.text, tokens]
  simp [Toml.Reader.lines?, Toml.Reader.step?, Toml.Reader.keyPart?, key, Toml.Reader.keyEnd?,
    Toml.Reader.value?, Toml.Reader.finish?]

/-! ## Adding the names -/

theorem isField_field (t : Table) : isField t.field = true := by
  cases t <;> decide

theorem exists_of_isField {key : String} (h : isField key = true) : ∃ t : Table, t.field = key := by
  obtain ⟨t, -, same⟩ := List.any_eq_true.1 h
  exact ⟨t, eq_of_beq same⟩

/-- The members that the given names are in a document. -/
def membersOf (names : List (Table × String)) : Toml.Members :=
  names.map fun n => (n.1.field, .string n.2)

theorem lookup_membersOf (names : List (Table × String)) (t : Table) :
    (membersOf names).lookup t.field = (names.lookup t).map .string := by
  induction names with
  | nil => rfl
  | cons n names ih =>
    rw [membersOf, List.map_cons, Toml.lookup_cons_eq, List.lookup_cons]
    by_cases same : t = n.1
    · rw [if_pos (congrArg Table.field same), beq_iff_eq.2 same]
      rfl
    · rw [if_neg fun e => same (Table.field_inj e), beq_false_of_ne same]
      exact ih

/-- Below the header, the lines of the names add them to what the other lines say. -/
theorem exists_extends {parts : List Part} {names : List (Table × String)}
    {full rest rest' : Toml.Document}
    (h : Toml.Document.Extends "tables" isField (membersOf names) full rest)
    (opened : rest.current = ["tables"])
    (spelled : ∀ t name text, .name t name text ∈ parts → IsBasicString name text)
    (inside : ∀ text, .further text ∈ parts →
      (linesOf? text).isSome ∧ ∀ line ∈ linesOf text, ∃ path v, line = .pair path v)
    (once : ((names ++ parts.filterMap Part.given?).map Prod.fst).Nodup)
    (applied : ((parts.filterMap Part.further?).flatMap linesOf).foldlM Toml.Document.apply rest =
      some rest')
    (lacks : Toml.Document.Lacks "tables" isField rest') :
    ∃ full', ((parts.map Part.text).flatMap linesOf).foldlM Toml.Document.apply full = some full' ∧
      Toml.Document.Extends "tables" isField (membersOf (names ++ parts.filterMap Part.given?))
        full' rest' := by
  induction parts generalizing names full rest with
  | nil =>
    cases applied
    exact ⟨full, rfl, by rwa [List.filterMap_nil, List.append_nil]⟩
  | cons part parts ih =>
    have spelled' := fun t name text hm => spelled t name text (List.mem_cons_of_mem _ hm)
    have inside' := fun text hm => inside text (List.mem_cons_of_mem _ hm)
    cases part with
    | name t name text =>
      have line : linesOf (Part.name t name text).text = [.pair [t.field] (.string name)] := by
        rw [linesOf, linesOf?_name t (spelled t name text List.mem_cons_self), Option.getD_some]
      have given : (Part.name t name text :: parts).filterMap Part.given? =
          (t, name) :: parts.filterMap Part.given? := rfl
      rw [given, List.append_cons] at once ⊢
      have fresh : (membersOf names).lookup t.field = none := by
        rw [lookup_membersOf, Option.map_eq_none_iff, List.lookup_eq_none_iff]
        intro n hn
        rw [List.map_append, List.map_append, List.nodup_append] at once
        have apart := (List.nodup_append.1 once.1).2.2 n.1 (List.mem_map_of_mem hn) t (by simp)
        exact bne_iff_ne.2 apart.symm
      obtain ⟨full₁, added, h₁⟩ :=
        h.concat opened (isField_field t) fresh (.string name)
      have grown : membersOf names ++ [(t.field, .string name)] = membersOf (names ++ [(t, name)]) := by
        rw [membersOf, membersOf, List.map_append]
        rfl
      rw [grown] at h₁
      obtain ⟨full₂, others, h₂⟩ := ih h₁ opened spelled' inside' once applied
      refine ⟨full₂, ?_, h₂⟩
      rw [List.map_cons, List.flatMap_cons, line, List.singleton_append, List.foldlM_cons, added]
      exact others
    | further text =>
      obtain ⟨-, pairs⟩ := inside text List.mem_cons_self
      have others : (Part.further text :: parts).filterMap Part.further? =
          text :: parts.filterMap Part.further? := rfl
      rw [others, List.flatMap_cons, List.foldlM_append] at applied
      obtain ⟨next, first, applied⟩ := Option.bind_eq_some_iff.1 applied
      obtain ⟨members, -, found, -⟩ := h.inside
      obtain ⟨inner, found', -⟩ := Toml.Document.lookup_isSome_of_foldlM found first
      obtain ⟨full₁, first', h₁⟩ := h.foldlM first (lacks.of_foldlM found' applied)
      have opened' := (Toml.Document.current_of_foldlM pairs first).trans opened
      obtain ⟨full₂, rest', h₂⟩ := ih h₁ opened' spelled' inside' once applied
      refine ⟨full₂, ?_, h₂⟩
      rw [List.map_cons, List.flatMap_cons, List.foldlM_append]
      exact Option.bind_eq_some_iff.2 ⟨full₁, first', rest'⟩

/-! ## Reading the whole text -/

theorem ofText?_joined {texts : List (List Char)} (h : ∀ text ∈ texts, (linesOf? text).isSome) :
    Toml.ofText? (Source.joined texts) = Toml.ofLines? (texts.flatMap linesOf) :=
  Toml.ofText?_ofList (Toml.linesOf?_intercalate h)

theorem linesOf?_header : linesOf? "[tables]".toList = some [.header ["tables"]] := by
  rfl

/-- A text with a part below the header of `tables` is read in four steps. -/
theorem ofText?_joined_around {before inner after : List (List Char)}
    (outside : ∀ text ∈ before ++ after, (linesOf? text).isSome)
    (inside : ∀ text ∈ inner, (linesOf? text).isSome) :
    Toml.ofText? (Source.joined (before ++ "[tables]".toList :: (inner ++ after))) =
      ((before.flatMap linesOf).foldlM Toml.Document.apply ⟨[], []⟩ >>= fun d =>
        d.apply (.header ["tables"]) >>= fun d =>
          (inner.flatMap linesOf).foldlM Toml.Document.apply d >>= fun d =>
            (after.flatMap linesOf).foldlM Toml.Document.apply d).map Toml.Document.root := by
  have header : linesOf "[tables]".toList = [.header ["tables"]] := by
    rw [linesOf, linesOf?_header, Option.getD_some]
  have readable : ∀ text ∈ before ++ "[tables]".toList :: (inner ++ after),
      (linesOf? text).isSome := by
    intro text hm
    rw [List.mem_append, List.mem_cons, List.mem_append] at hm
    rcases hm with hm | rfl | hm | hm
    · exact outside text (List.mem_append_left _ hm)
    · rw [linesOf?_header]
      rfl
    · exact inside text hm
    · exact outside text (List.mem_append_right _ hm)
  rw [ofText?_joined readable, Toml.ofLines?, List.flatMap_append, List.flatMap_cons,
    List.flatMap_append, header, List.foldlM_append, List.singleton_append]
  simp only [List.foldlM_cons, List.foldlM_append]
  rfl

/-- A document with the given names in `tables` names the tables so. -/
theorem ofDocument?_of_extends {names : List (Table × String)} {full rest : Toml.Document}
    (h : Toml.Document.Extends "tables" isField (membersOf names) full rest)
    (numbers : Toml.membersInRange rest.root = true) :
    ofDocument? full.root = some
      ⟨(names.lookup .user).getD (Tables.default.name .user),
        (names.lookup .session).getD (Tables.default.name .session),
        (names.lookup .key).getD (Tables.default.name .key)⟩ := by
  obtain ⟨members, found, found', same⟩ := h.inside
  have outside : Toml.membersInRange (full.root.filter fun m => m.1 ≠ "tables") = true := by
    rw [h.beside]
    exact Toml.membersInRange_filter numbers _
  have others : othersInRange members = true := Toml.membersInRange_of_lookup numbers found'
  have named (t : Table) :
      name? members t = some ((names.lookup t).getD (Tables.default.name t)) := by
    rw [name?, same t.field (isField_field t), lookup_membersOf]
    cases names.lookup t <;> rfl
  rw [ofDocument?, if_pos outside, found]
  simp only [tables?, others, named]
  rfl

theorem Source.Wellformed.exists_document {source : Source} (h : source.Wellformed) :
    ∃ root, Toml.ofText? source.text = some root ∧ ofDocument? root = some source.tables := by
  obtain ⟨root, read, numbers, unknown⟩ := h.rest
  have part : ∀ text ∈ source.parts.map Part.text, (linesOf? text).isSome := by
    intro text hm
    obtain ⟨part, hpart, rfl⟩ := List.mem_map.1 hm
    cases part with
    | name t name text =>
      rw [linesOf?_name t (h.spelled t name text hpart)]
      rfl
    | further text => exact (h.inside text hpart).1
  have further : ∀ text ∈ source.parts.filterMap Part.further?, (linesOf? text).isSome := by
    intro text hm
    obtain ⟨part, hpart, hfurther⟩ := List.mem_filterMap.1 hm
    cases part with
    | name _ _ _ => exact nomatch hfurther
    | further text =>
      cases hfurther
      exact (h.inside text hpart).1
  rw [Source.rest, ofText?_joined_around h.outside further] at read
  obtain ⟨final, steps, rfl⟩ := Option.map_eq_some_iff.1 read
  obtain ⟨start, first, steps⟩ := Option.bind_eq_some_iff.1 steps
  obtain ⟨opened, second, steps⟩ := Option.bind_eq_some_iff.1 steps
  obtain ⟨between, third, fourth⟩ := Option.bind_eq_some_iff.1 steps
  have lacks : Toml.Document.Lacks "tables" isField final := by
    intro members found key hk
    obtain ⟨t, rfl⟩ := exists_of_isField hk
    exact unknown members found t
  -- The table is there from its header on, so it lacks the names at every step.
  obtain ⟨current, members, found⟩ := Toml.Document.apply_header second
  obtain ⟨members', found', -⟩ := Toml.Document.lookup_isSome_of_foldlM found third
  have lacks' := lacks.of_foldlM found' fourth
  have same : Toml.Document.Extends "tables" isField (membersOf []) opened opened :=
    .refl found (lacks'.of_foldlM found third)
  obtain ⟨full, third', hfull⟩ :=
    exists_extends same current h.spelled h.inside h.once third lacks'
  obtain ⟨full', fourth', hfull'⟩ := hfull.foldlM fourth lacks
  refine ⟨full'.root, ?_, ofDocument?_of_extends hfull' numbers⟩
  rw [Source.text, ofText?_joined_around h.outside part, first]
  simp only [Option.bind_eq_bind, Option.bind_some, second, third', fourth', Option.map_some]

/-! ## Blank names -/

/-- Of several tables with blank names, the first in the order user, session, key is refused. -/
theorem validate_eq (tables : Tables) :
    validate tables =
      match [Table.user, .session, .key].find? fun t => Tables.isBlankName (tables.name t) with
      | some t => .error (.config (.blankName t))
      | none => .ok tables := by
  have same : tables.firstBlank? =
      [Table.user, .session, .key].find? fun t => Tables.isBlankName (tables.name t) :=
    congrArg (List.find? · _) (funext fun t => Tables.isEmpty_trim (tables.name t))
  exact congrArg (fun found : Option Table =>
    match found with
    | some t => Except.error (Failure.config (.blankName t))
    | none => .ok tables) same

theorem not_isBlankName_of_validate {tables tables' : Tables} (h : validate tables = .ok tables')
    (t : Table) : Tables.isBlankName (tables'.name t) = false := by
  rw [validate_eq] at h
  split at h
  · exact nomatch h
  · next none =>
    cases h
    rw [List.find?_eq_none] at none
    exact Bool.eq_false_iff.2 (none t (by cases t <;> decide))

/-- The defaults are not blank, so only a name that is given can be. -/
theorem isBlankName_tables (source : Source) (t : Table) :
    Tables.isBlankName (source.tables.name t) =
      (source.names.lookup t).any Tables.isBlankName := by
  have default : Tables.isBlankName (Tables.default.name t) = false := by cases t <;> decide
  have named : source.tables.name t = source.nameOf t := by cases t <;> rfl
  rw [named, Source.nameOf]
  cases source.names.lookup t with
  | none => exact default
  | some name => rfl

theorem ofFile_toUTF8 (s : String) : ofFile (some s.toUTF8) = ofText s := by
  have decoded : String.fromUTF8? s.toUTF8 = some s := by
    unfold String.fromUTF8?
    exact dif_pos s.isValidUTF8
  rw [ofFile, Option.bind_eq_bind, Option.bind_some, decoded]

/-- The names in a configuration are read exactly, with defaults for those that are left out, unless
one of them is blank: then the first such table in the order user, session, key is refused, whatever
the order in the text.  No configuration has a blank name, a file is read like its text, and every
text can be written as a name. -/
theorem names_read_or_first_blank :
    (∀ source : Source, source.Wellformed →
      ofText source.text =
        match [Table.user, .session, .key].find? fun t =>
          (source.names.lookup t).any Tables.isBlankName with
        | some t => .error (.config (.blankName t))
        | none => .ok source.tables) ∧
    (∀ s tables, ofText s = .ok tables → ∀ t, Tables.isBlankName (tables.name t) = false) ∧
    (∀ bytes tables, ofFile bytes = .ok tables →
      ∀ t, Tables.isBlankName (tables.name t) = false) ∧
    (∀ s : String, ofFile (some s.toUTF8) = ofText s) ∧
    ∀ name : String, ∃ text, IsBasicString name text := by
  have valid (s : String) (tables : Tables) (h : ofText s = .ok tables) (t : Table) :
      Tables.isBlankName (tables.name t) = false := by
    unfold ofText at h
    split at h
    · exact not_isBlankName_of_validate h t
    · exact nomatch h
  refine ⟨fun source h => ?_, valid, fun bytes tables h => ?_, ofFile_toUTF8,
    Toml.exists_isBasicString⟩
  · obtain ⟨root, read, named⟩ := h.exists_document
    have found : (Toml.ofText? source.text >>= ofDocument?) = some source.tables := by
      rw [read]
      exact named
    simp only [ofText, found, validate_eq, isBlankName_tables]
  · unfold ofFile at h
    split at h
    · next s _ => exact valid s tables h
    · exact nomatch h

/-- Names in another order than that in which they are looked at, among other keys. -/
def outOfOrder : Source where
  before := ["title = 'store'".toList]
  parts :=
    [.name .key "" "\"\"".toList, .further "limit = [1,\n  2]".toList,
      .name .user "\u00A0\t" "\"\\u00a0\\t\"".toList]
  after := ["[tables.more]".toList, []]

theorem outOfOrder_wellformed : outOfOrder.Wellformed where
  spelled t name text h := by
    simp only [outOfOrder, List.mem_cons, Part.name.injEq, reduceCtorEq, false_or,
      List.not_mem_nil, or_false] at h
    rcases h with ⟨-, rfl, rfl⟩ | ⟨-, rfl, rfl⟩
    · exact ⟨[], .nil, rfl⟩
    · have space : Toml.Spells '\u00A0' ['\\', 'u', '0', '0', 'a', '0'] :=
        .code (by decide) (by decide)
      have tab : Toml.Spells '\t' ['\\', 't'] := .letter (by decide)
      exact ⟨_, .cons space (.cons tab .nil), rfl⟩
  once := by decide
  outside := by decide
  inside text h := by
    simp only [outOfOrder, List.mem_cons, Part.further.injEq, reduceCtorEq, false_or,
      List.not_mem_nil, or_false] at h
    subst h
    refine ⟨by decide, fun line hline => ?_⟩
    have lines : linesOf "limit = [1,\n  2]".toList =
        [.pair ["limit"] (.array [.integer (some 1), .integer (some 2)])] := rfl
    rw [lines, List.mem_singleton] at hline
    exact ⟨_, _, hline⟩
  rest := by
    have read : Toml.ofText? outOfOrder.rest = some
        [("title", .string "store"), ("tables", .table .header
          [("limit", .array [.integer (some 1), .integer (some 2)]),
            ("more", .table .header [])])] := by
      rfl
    refine ⟨_, read, by decide, fun members found t => ?_⟩
    cases found
    cases t <;> decide

theorem names_read_or_first_blank_out_of_order :
    outOfOrder.Wellformed ∧
      outOfOrder.text = "title = 'store'\n[tables]\nkey = \"\"\nlimit = [1,\n  2]\nuser = \"\\u00a0\\t\"\n[tables.more]\n" ∧
      ofText outOfOrder.text = .error (.config (.blankName .user)) := by
  refine ⟨outOfOrder_wellformed, by decide +kernel, ?_⟩
  exact names_read_or_first_blank.1 outOfOrder outOfOrder_wellformed

end Config

end Account

end BoundSql
