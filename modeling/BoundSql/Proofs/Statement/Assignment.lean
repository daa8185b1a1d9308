import BoundSql.Proofs.Statement.Unambiguous

/-!
# What statements assign

A statement that inserts or updates gives values to columns: the columns stand as names in its text
and the values are its parameters, in the same order.  `Statement.insertion?` and
`Statement.update?` read this off a statement alone, without the clauses it was compiled from, and
what they read is what the clause was to write (`insertion?_written`, `update?_written`), whatever
the names of the table and the columns are.  No other statement is read as an update
(`update?_written_eq_none`).
-/

namespace BoundSql

/-! ## Reading a name -/

namespace Name

/-- The characters of a name up to the accent that closes it, and the text after that accent. -/
def readBody : List Char → Option (List Char × List Char)
  | [] => none
  | c :: s =>
    if c = accent then
      match s with
      | [] => some ([], [])
      | d :: s =>
        -- A pair of accents stands for one, and a single accent closes the name.
        if d = accent then (readBody s).map fun r => (accent :: r.1, r.2) else some ([], d :: s)
    else (readBody s).map fun r => (c :: r.1, r.2)

/-- The name between accents that stands at the beginning of a text, and the text after it. -/
def readQuoted? : List Char → Option (String × List Char)
  | [] => none
  | c :: s => if c = accent then (readBody s).map fun r => (.ofList r.1, r.2) else none

/-- The name that stands at the beginning of a text, between accents unless it is `*`, and the text
after it. -/
def read? : List Char → Option (String × List Char)
  | '*' :: s => some ("*", s)
  | s => readQuoted? s

theorem readBody_cons_of_ne {c : Char} (hc : c ≠ accent) (s : List Char) :
    readBody (c :: s) = (readBody s).map fun r => (c :: r.1, r.2) := by
  rw [readBody.eq_def]
  exact if_neg hc

theorem readBody_accents (s : List Char) :
    readBody (accent :: accent :: s) = (readBody s).map fun r => (accent :: r.1, r.2) := by
  simp [readBody]

theorem readBody_body_append (n : List Char) {r : List Char} (hr : r.head? ≠ some accent) :
    readBody (body n ++ accent :: r) = some (n, r) := by
  induction n with
  | nil =>
    cases r with
    | nil => rfl
    | cons d r =>
      have hd : d ≠ accent := fun e => hr (congrArg some e)
      simp [body, readBody, hd]
  | cons c n ih =>
    unfold body
    split_ifs with hc
    · rw [List.cons_append, List.cons_append, readBody_accents, ih, hc]
      rfl
    · rw [List.cons_append, readBody_cons_of_ne hc, ih]
      rfl

/-- A name between accents is read back unless another accent follows. -/
theorem readQuoted?_accent_body (n : String) {r : List Char} (hr : r.head? ≠ some accent) :
    readQuoted? (accent :: (body n.toList ++ accent :: r)) = some (n, r) := by
  rw [readQuoted?, if_pos rfl, readBody_body_append n.toList hr, Option.map_some,
    String.ofList_toList]

theorem read?_quoted_append (n : String) {r : List Char} (hr : r.head? ≠ some accent) :
    read? (quoted n.toList ++ r) = some (n, r) := by
  unfold quoted
  split_ifs with hn
  · have star : n = "*" := String.toList_inj.1 hn
    rw [star]
    rfl
  · have opened : accent :: body n.toList ++ [accent] ++ r =
        accent :: (body n.toList ++ accent :: r) := by simp
    rw [opened]
    exact readQuoted?_accent_body n hr

end Name

/-! ## Reading an assignment -/

/-- The columns of a table to which a statement assigns values, in order, and what comes after the
assignment. -/
structure Assignment where
  table : String
  entries : List (String × Value)
  rest : Statement
deriving DecidableEq

namespace Assignment

/-- The columns to which values are assigned. -/
def columns (a : Assignment) : List String := a.entries.map Prod.fst

/-- Reads columns with commas between them, each with the text `mark` after its name, and pairs them
with the parameters in order. -/
def readEntries (mark : List Char) :
    List Value → List Char → Option (List (String × Value) × List Value × List Char)
  | [], _ => none
  | v :: params, s => do
    let (column, s) ← Name.read? s
    let s ← s.dropPrefix? mark
    match s.dropPrefix? ",".toList with
    | some s => (readEntries mark params s).map fun r => ((column, v) :: r.1, r.2)
    | none => return ([(column, v)], params, s)

end Assignment

namespace Statement

/-- What a statement inserts, if it is an insertion with a mark for each of its columns. -/
def insertion? (s : Statement) : Option Assignment := do
  let text ← s.sql.toList.dropPrefix? "INSERT INTO ".toList
  let (table, text) ← Name.read? text
  let text ← text.dropPrefix? " (".toList
  let (entries, params, text) ← Assignment.readEntries [] s.params text
  let text ← text.dropPrefix? ") VALUES (".toList
  let text ← text.dropPrefix? (",".toList.intercalate (entries.map fun _ => ['?']))
  let text ← text.dropPrefix? ")".toList
  return ⟨table, entries, ⟨.ofList text, params⟩⟩

/-- What a statement updates, if it is an update. -/
def update? (s : Statement) : Option Assignment := do
  let text ← s.sql.toList.dropPrefix? "UPDATE ".toList
  let (table, text) ← Name.read? text
  let text ← text.dropPrefix? " SET ".toList
  let (entries, params, text) ← Assignment.readEntries " = ?".toList s.params text
  return ⟨table, entries, ⟨.ofList text, params⟩⟩

end Statement

/-! ## Statements are read as they were written -/

namespace Text

theorem dropPrefix?_append (p t : List Char) : (p ++ t).dropPrefix? p = some t :=
  List.dropPrefix?_append_of_beq t (beq_self_eq_true p)

theorem dropPrefix?_eq_none {p t : List Char} (h : ¬ p <+: t) : t.dropPrefix? p = none := by
  cases dropped : t.dropPrefix? p with
  | none => rfl
  | some r =>
    obtain ⟨q, rfl, hq⟩ := List.dropPrefix?_eq_some_iff.1 dropped
    rw [eq_of_beq hq] at h
    exact absurd (List.prefix_append p r) h

end Text

/-- A clause is followed by nothing or by a blank. -/
theorem Clause.head?_tailText_ne (cs : List Clause) {x : Char} (hx : x ≠ ' ') :
    (tailText cs).head? ≠ some x := by
  cases cs with
  | nil => exact nofun
  | cons c cs => exact fun e => hx (Option.some.inj e).symm

namespace Assignment

open Text

theorem readEntries_cons {mark t : List Char} (h : (mark ++ t).head? ≠ some Name.accent)
    (column : String) (v : Value) (params : List Value) :
    readEntries mark (v :: params) (Name.quoted column.toList ++ (mark ++ t)) =
      match t.dropPrefix? ",".toList with
      | some s => (readEntries mark params s).map fun r => ((column, v) :: r.1, r.2)
      | none => some ([(column, v)], params, t) := by
  simp only [readEntries, Name.read?_quoted_append column h, Option.bind_eq_bind, Option.bind_some,
    dropPrefix?_append]
  rfl

/-- Columns are read back with their values when a mark hides no accent and no comma follows. -/
theorem readEntries_append (mark : List Char)
    (hmark : ∀ t : List Char, t.head? ≠ some Name.accent → (mark ++ t).head? ≠ some Name.accent)
    {es : List (String × Value)} (hes : es ≠ []) (params : List Value) {r : List Char}
    (hcomma : r.head? ≠ some ',') (haccent : r.head? ≠ some Name.accent) :
    readEntries mark (es.map Prod.snd ++ params)
        (",".toList.intercalate (es.map fun e => Name.quoted e.1.toList ++ mark) ++ r) =
      some (es, params, r) := by
  induction es with
  | nil => exact absurd rfl hes
  | cons e es ih =>
    cases es with
    | nil =>
      simp only [List.map_cons, List.map_nil, List.intercalate_singleton, List.append_assoc,
        List.cons_append, List.nil_append]
      rw [readEntries_cons (hmark r haccent),
        dropPrefix?_eq_none (Clause.not_begins_comma hcomma)]
    | cons f es =>
      have comma (t : List Char) : (mark ++ (",".toList ++ t)).head? ≠ some Name.accent :=
        hmark _ (by simp [Name.accent])
      simp only [List.map_cons, List.intercalate_cons_cons, List.append_assoc, List.cons_append]
      simp only [List.map_cons, List.cons_append] at ih
      rw [readEntries_cons (comma _), dropPrefix?_append]
      simp only [ih (List.cons_ne_nil f es)]
      rfl

end Assignment

namespace Statement

open Text

theorem toList_sql_written (c : Clause) (cs : List Clause) :
    (written (c :: cs)).sql.toList = c.text ++ Clause.tailText cs :=
  String.toList_ofList

theorem params_written (c : Clause) (cs : List Clause) :
    (written (c :: cs)).params = c.params ++ Clause.listParams cs :=
  List.flatMap_cons

theorem entries_ne_nil {row : Row} (h : row.isEmpty = false) : row.entries ≠ [] :=
  fun e => Row.columns_ne_nil h (congrArg (List.map Prod.fst) e)

/-- An insertion is read back from its statement: the table, the columns in order with their values,
and after them the other clauses. -/
theorem insertion?_written (table : String) {row : Row} (h : row.isEmpty = false)
    (cs : List Clause) :
    (written (.insertInto table row :: cs)).insertion? =
      some ⟨table, row.entries, ⟨.ofList (Clause.tailText cs), Clause.listParams cs⟩⟩ := by
  have open_ne (t : List Char) : (" (".toList ++ t).head? ≠ some Name.accent := by
    simp [Name.accent]
  have marks : row.columns.map (fun _ => ['?']) = row.entries.map fun _ => ['?'] := List.map_map
  have names : row.columns.map (fun c => Name.quoted c.toList) =
      row.entries.map fun e => Name.quoted e.1.toList ++ [] := by
    simp [Row.columns]
  have read (t : List Char) := Assignment.readEntries_append [] (fun _ ht => ht)
    (entries_ne_nil h) (Clause.listParams cs) (r := ") VALUES (".toList ++ t) (by simp)
    (by simp [Name.accent])
  unfold insertion?
  rw [toList_sql_written, params_written, Clause.text_insertInto, names, marks]
  simp only [List.append_assoc, dropPrefix?_append, Name.read?_quoted_append table (open_ne _),
    Clause.params, Row.values, read, Option.bind_eq_bind, Option.bind_some]
  rfl

/-- An update is read back from its statement: the table, the columns in order with their values, and
after them the other clauses. -/
theorem update?_written (table : String) {row : Row} (h : row.isEmpty = false)
    (cs : List Clause) :
    (written (.update table row :: cs)).update? =
      some ⟨table, row.entries, ⟨.ofList (Clause.tailText cs), Clause.listParams cs⟩⟩ := by
  have set_ne (t : List Char) : (" SET ".toList ++ t).head? ≠ some Name.accent := by
    simp [Name.accent]
  have settings : row.columns.map (fun c => Name.quoted c.toList ++ " = ?".toList) =
      row.entries.map fun e => Name.quoted e.1.toList ++ " = ?".toList := List.map_map
  have hidden (t : List Char) : (" = ?".toList ++ t).head? ≠ some Name.accent := by
    simp [Name.accent]
  have comma : (Clause.tailText cs).head? ≠ some ',' := Clause.head?_tailText_ne cs (by decide)
  have accent : (Clause.tailText cs).head? ≠ some Name.accent :=
    Clause.head?_tailText_ne cs (by decide)
  have read := Assignment.readEntries_append " = ?".toList (fun t _ => hidden t)
    (entries_ne_nil h) (Clause.listParams cs) comma accent
  unfold update?
  rw [toList_sql_written, params_written, Clause.text_update, settings]
  simp only [List.append_assoc, dropPrefix?_append, Name.read?_quoted_append table (set_ne _),
    Clause.params, Row.values, read, Option.bind_eq_bind, Option.bind_some]
  rfl

example :
    update? ⟨"UPDATE `a``b` SET `c,` = ?,* = ? WHERE id = ?", [.null, .integer 1, .text "u"]⟩ =
      some ⟨"a`b", [("c,", .null), ("*", .integer 1)], ⟨" WHERE id = ?", [.text "u"]⟩⟩ := by
  cbv

/-- A statement that begins with the words of another clause is no update. -/
theorem update?_written_eq_none {c : Clause} (hc : c.kind ∈ Clause.mergedKinds)
    (hne : c.kind ≠ .update) (cs : List Clause) : (written (c :: cs)).update? = none := by
  have other : ¬ "UPDATE ".toList <+: (written (c :: cs)).sql.toList := by
    rw [toList_sql_written]
    intro h
    have opening := (Clause.opening_prefix_text c).trans
      (List.prefix_append c.text (Clause.tailText cs))
    have update : Clause.Kind.update ∈ Clause.mergedKinds := by decide
    rcases List.prefix_or_prefix_of_prefix opening h with hp | hp
    · exact hne (Clause.eq_of_opening_begins _ hc _ update hp)
    · exact hne (Clause.eq_of_opening_begins _ update _ hc hp).symm
  unfold update?
  rw [dropPrefix?_eq_none other]
  rfl

/-- The statement gives a column new values in rows that are there. -/
def Updates (s : Statement) (column : String) : Prop :=
  ∃ a, s.update? = some a ∧ column ∈ a.columns

theorem updates_written_iff {table : String} {row : Row} (h : row.isEmpty = false)
    (cs : List Clause) (column : String) :
    (written (.update table row :: cs)).Updates column ↔ column ∈ row.columns := by
  unfold Updates
  rw [update?_written table h]
  constructor
  · rintro ⟨a, ⟨rfl⟩, assigned⟩
    exact assigned
  · intro assigned
    exact ⟨_, rfl, assigned⟩

theorem not_updates_written {c : Clause} (hc : c.kind ∈ Clause.mergedKinds)
    (hne : c.kind ≠ .update) (cs : List Clause) (column : String) :
    ¬ (written (c :: cs)).Updates column := by
  rintro ⟨a, read, -⟩
  rw [update?_written_eq_none hc hne] at read
  exact nomatch read

end Statement

end BoundSql
