import BoundSql.Proofs.Comparator
import BoundSql.Proofs.Statement.Written
import BoundSql.Proofs.Text.Reading

/-!
# Statements can be read back

A statement determines the clauses it was compiled from, up to a filter by one condition, which is
written like a conjunction of one (`Clause.merged`).

The text is read from the left.  Each reading lemma has the form "`f a ++ r = f b ++ s` implies
`a = b` and `r = s`", where `r` and `s` are rests of the kind that can follow: a word ends before a
blank, a quoted name before anything but an accent (`quoted_append_inj`), and a joined list before
anything but its separator.  A clause is read by its opening words and then part by part
(`text_append_inj`), and its parameters are split off by their number.
-/

namespace BoundSql

namespace Name

/-! ## Reading names -/

theorem body_append_inj {a b r s : List Char} (hr : r.head? ≠ some accent)
    (hs : s.head? ≠ some accent) (h : body a ++ accent :: r = body b ++ accent :: s) :
    a = b ∧ r = s := by
  induction a generalizing b with
  | nil =>
    cases b with
    | nil => exact ⟨rfl, (List.cons.inj h).2⟩
    | cons d b =>
      unfold body at h
      split_ifs at h with hd
      · rw [(List.cons.inj h).2] at hr
        exact absurd rfl hr
      · exact absurd (List.cons.inj h).1.symm hd
  | cons c a ih =>
    cases b with
    | nil =>
      unfold body at h
      split_ifs at h with hc
      · rw [← (List.cons.inj h).2] at hs
        exact absurd rfl hs
      · exact absurd (List.cons.inj h).1 hc
    | cons d b =>
      unfold body at h
      split_ifs at h with hc hd hd
      · obtain ⟨rfl, hrs⟩ := ih (List.cons.inj (List.cons.inj h).2).2
        exact ⟨by rw [hc, hd], hrs⟩
      · exact absurd (List.cons.inj h).1.symm hd
      · exact absurd (List.cons.inj h).1 hc
      · obtain ⟨hcd, h⟩ := List.cons.inj h
        obtain ⟨rfl, hrs⟩ := ih h
        exact ⟨by rw [hcd], hrs⟩

/-- A quoted name ends where no accent follows. -/
theorem quoted_append_inj {a b : String} {r s : List Char} (hr : r.head? ≠ some accent)
    (hs : s.head? ≠ some accent) (h : quoted a.toList ++ r = quoted b.toList ++ s) :
    a = b ∧ r = s := by
  have star : '*' ≠ accent := by decide
  rw [← String.toList_inj]
  unfold quoted at h
  split_ifs at h with ha hb hb
  · rw [ha, hb] at h ⊢
    exact ⟨rfl, List.append_cancel_left h⟩
  · rw [ha] at h
    exact absurd (List.cons.inj h).1 star
  · rw [hb] at h
    exact absurd (List.cons.inj h).1.symm star
  · simp only [List.cons_append, List.append_assoc, List.nil_append] at h
    exact body_append_inj hr hs (List.cons.inj h).2

end Name

namespace Comparator

theorem mark_not_mem_sql : ∀ a ∈ all, '?' ∉ a.sql.toList := by decide

theorem sql_append_inj {a b : Comparator} {r s : List Char}
    (h : a.sql.toList ++ ' ' :: '?' :: r = b.sql.toList ++ ' ' :: '?' :: s) : a = b ∧ r = s := by
  have blank {c : Comparator} : '?' ∉ c.sql.toList ++ [' '] := by
    rw [List.mem_append, not_or]
    exact ⟨mark_not_mem_sql c (mem_all c), by decide⟩
  have h' : (a.sql.toList ++ [' ']) ++ '?' :: r = (b.sql.toList ++ [' ']) ++ '?' :: s := by
    simpa using h
  obtain ⟨hsql, hrs⟩ := Text.append_cons_inj blank blank h'
  have hab : a.sql = b.sql := String.toList_inj.1 (List.append_cancel_right hsql)
  exact ⟨sql_inj hab, hrs⟩

end Comparator

/-- A row is determined by its columns and its values. -/
theorem Row.eq_of_columns_of_values {r s : Row} (hc : r.columns = s.columns)
    (hv : r.values = s.values) : r = s := by
  obtain ⟨es, hes⟩ := r
  obtain ⟨fs, hfs⟩ := s
  have h : es = fs := by
    rw [← List.zip_unzip es, ← List.zip_unzip fs, List.unzip_eq_map, List.unzip_eq_map]
    exact congrArg₂ List.zip hc hv
  subst h
  rfl

theorem Row.columns_ne_nil {row : Row} (h : row.isEmpty = false) : row.columns ≠ [] := by
  intro e
  have hnil : row.entries = [] := List.map_eq_nil_iff.1 e
  rw [Row.isEmpty, hnil] at h
  exact nomatch h

namespace Clause

open Piece

/-! ## Texts of clauses -/

theorem text_select (table : String) (columns : List String) :
    (select table columns).text = "SELECT ".toList ++
      (",".toList.intercalate (columns.map String.toList) ++
        (" FROM ".toList ++ Name.quoted table.toList)) := by
  simp [text, pieces, text_cons, text_append, text_nil, chars, text_joined, Function.comp_def]

theorem text_insertInto (table : String) (row : Row) :
    (insertInto table row).text = "INSERT INTO ".toList ++ (Name.quoted table.toList ++
      (" (".toList ++ (",".toList.intercalate (row.columns.map fun c => Name.quoted c.toList) ++
        (") VALUES (".toList ++ (",".toList.intercalate (row.columns.map fun _ => ['?']) ++
          ")".toList))))) := by
  simp only [text, pieces, text_cons, text_append, text_nil, chars, text_joined, List.map_map,
    Function.comp_def, List.append_nil]

theorem text_update (table : String) (row : Row) :
    (update table row).text = "UPDATE ".toList ++ (Name.quoted table.toList ++
      (" SET ".toList ++ ",".toList.intercalate
        (row.columns.map fun c => Name.quoted c.toList ++ " = ?".toList))) := by
  have mark : " = ?".toList = " = ".toList ++ ['?'] := rfl
  simp only [text, pieces, text_cons, text_nil, chars, text_joined, List.map_map,
    Function.comp_def, mark, List.append_nil]

theorem text_deleteFrom (table : String) :
    (deleteFrom table).text = "DELETE FROM ".toList ++ Name.quoted table.toList := by
  simp only [text, pieces, text_cons, text_nil, chars, List.append_nil]

theorem text_innerJoin (table tableColumn column : String) :
    (innerJoin table tableColumn column).text = "INNER JOIN ".toList ++
      (Name.quoted table.toList ++ (" ON ".toList ++ (tableColumn.toList ++
        (" = ".toList ++ column.toList)))) := by
  simp only [text, pieces, text_cons, text_nil, chars, List.append_nil]

theorem text_condition (c : Condition) :
    Piece.text c.pieces = c.column.toList ++ ' ' :: (c.comparator.sql.toList ++ [' ', '?']) := by
  have blank : " ".toList = [' '] := rfl
  simp [Condition.pieces, text_cons, text_nil, chars, blank]

theorem text_filterAll (conditions : List Condition) :
    (filterAll conditions).text = "WHERE ".toList ++ " AND ".toList.intercalate
      (conditions.map fun c =>
        c.column.toList ++ ' ' :: (c.comparator.sql.toList ++ [' ', '?'])) := by
  simp only [text, pieces, text_cons, chars, text_joined, List.map_map, Function.comp_def,
    text_condition]

theorem text_returning (columns : List String) :
    (returning columns).text = "RETURNING ".toList ++
      ",".toList.intercalate (columns.map String.toList) := by
  simp [text, pieces, text_cons, text_nil, chars, text_joined, Function.comp_def]

/-! ## Reading clauses -/

/-- A filter by one condition as a conjunction of one; all other clauses as they are. -/
def merged : Clause → Clause
  | .filter c => .filterAll [c]
  | c => c

theorem written_merged (c : Clause) : c.merged.written = c.written := by
  cases c <;> simp [merged, written, text, pieces, params, joined_singleton]

theorem fault?_merged (c : Clause) : c.merged.fault? = c.fault? := by
  cases c <;> rfl

theorem texts_merged (c : Clause) : c.merged.texts = c.texts := by
  cases c <;> rfl

theorem kind_merged_ne (c : Clause) : c.merged.kind ≠ .filter := by
  cases c <;> simp [merged, kind]

/-- The words that a clause of a kind begins with. -/
def opening : Kind → String
  | .select => "SELECT "
  | .insertInto => "INSERT INTO "
  | .update => "UPDATE "
  | .deleteFrom => "DELETE FROM "
  | .innerJoin => "INNER JOIN "
  | .filter => "WHERE "
  | .filterAll => "WHERE "
  | .returning => "RETURNING "
  | .unknown => ""

theorem opening_prefix_text (c : Clause) : (opening c.kind).toList <+: c.text := by
  cases c <;> first | exact List.nil_prefix | exact List.prefix_append _ _

/-- The kinds of clauses that are written and that differ in their opening words. -/
def mergedKinds : List Kind :=
  [.select, .insertInto, .update, .deleteFrom, .innerJoin, .filterAll, .returning]

theorem kind_mem_mergedKinds {c : Clause} (hc : c.fault? = none) (h : c.kind ≠ .filter) :
    c.kind ∈ mergedKinds := by
  cases c with
  | filter c => exact absurd rfl h
  | unknown => exact absurd hc (by simp [fault?])
  | _ => simp only [kind]; decide

theorem eq_of_opening_begins :
    ∀ a ∈ mergedKinds, ∀ b ∈ mergedKinds, (opening a).toList <+: (opening b).toList → a = b := by
  decide

theorem kind_eq_of_text_append {c d : Clause} {r s : List Char} (hc : c.kind ∈ mergedKinds)
    (hd : d.kind ∈ mergedKinds) (h : c.text ++ r = d.text ++ s) : c.kind = d.kind := by
  have hc' : (opening c.kind).toList <+: c.text ++ r :=
    (opening_prefix_text c).trans (List.prefix_append _ _)
  have hd' : (opening d.kind).toList <+: c.text ++ r := by
    rw [h]
    exact (opening_prefix_text d).trans (List.prefix_append _ _)
  rcases List.prefix_or_prefix_of_prefix hc' hd' with hp | hp
  · exact eq_of_opening_begins _ hc _ hd hp
  · exact (eq_of_opening_begins _ hd _ hc hp).symm

/-- What can follow a clause in a statement: nothing or a blank, and no further condition. -/
structure Follows (r : List Char) : Prop where
  blank : Text.EndsWord (· = ' ') r
  no_and : ¬ " AND ".toList <+: r

theorem accent_ne_blank : Name.accent ≠ ' ' := by decide

theorem Follows.head?_ne {r : List Char} (h : Follows r) {x : Char} (hx : x ≠ ' ') :
    r.head? ≠ some x :=
  fun e => hx (h.blank x e)

theorem not_begins_comma {r : List Char} (h : r.head? ≠ some ',') : ¬ ",".toList <+: r := by
  rintro ⟨t, rfl⟩
  exact h rfl

/-- A row is read back from its columns and the parameters that begin with its values. -/
theorem row_append_inj {r s : Row} {ps qs : List Value} (hc : r.columns = s.columns)
    (h : r.values ++ ps = s.values ++ qs) : r = s ∧ ps = qs := by
  have hlen : r.values.length = s.values.length := by
    have := congrArg List.length hc
    simpa [Row.columns, Row.values] using this
  obtain ⟨hv, hps⟩ := List.append_inj h hlen
  exact ⟨Row.eq_of_columns_of_values hc hv, hps⟩

/-- Neither a blank nor a comma. -/
def IsColumn (column : String) : Prop := ∀ c ∈ column.toList, ¬ (c = ' ' ∨ c = ',')

/-- A list of columns without blanks and commas ends before a blank. -/
theorem columns_append_inj {as bs : List String} {r s : List Char} (has : as ≠ []) (hbs : bs ≠ [])
    (ca : ∀ a ∈ as, IsColumn a) (cb : ∀ b ∈ bs, IsColumn b)
    (hr : Text.EndsWord (· = ' ') r) (hs : Text.EndsWord (· = ' ') s)
    (h : ",".toList.intercalate (as.map String.toList) ++ r =
      ",".toList.intercalate (bs.map String.toList) ++ s) : as = bs ∧ r = s := by
  have no_comma {t : List Char} (ht : Text.EndsWord (· = ' ') t) : t.head? ≠ some ',' :=
    fun e => absurd (ht ',' e) (by decide)
  refine Text.intercalate_append_inj (P := IsColumn)
    (Q := Text.EndsWord fun c => c = ' ' ∨ c = ',') ?_ ?_ has hbs ca cb
    (fun c hc => Or.inl (hr c hc)) (fun c hc => Or.inl (hs c hc))
    (not_begins_comma (no_comma hr)) (not_begins_comma (no_comma hs)) h
  · intro t
    exact Text.endsWord_cons (Or.inr rfl) t
  · intro a b r s ha hb hr hs h
    obtain ⟨hab, hrs⟩ := Text.append_inj_of_endsWord ha hb hr hs h
    exact ⟨String.toList_inj.1 hab, hrs⟩

/-- A list of quoted names ends before a closing parenthesis. -/
theorem names_append_inj {as bs : List String} {r s : List Char} (has : as ≠ []) (hbs : bs ≠ [])
    (h : ",".toList.intercalate (as.map fun c => Name.quoted c.toList) ++ ')' :: r =
      ",".toList.intercalate (bs.map fun c => Name.quoted c.toList) ++ ')' :: s) :
    as = bs ∧ r = s := by
  have no_comma (t : List Char) : ¬ ",".toList <+: ')' :: t :=
    not_begins_comma (by simp)
  have no_accent (t : List Char) : (')' :: t).head? ≠ some Name.accent := by
    simp [Name.accent]
  have read : as = bs ∧ ')' :: r = ')' :: s :=
    Text.intercalate_append_inj (P := fun _ => True) (Q := fun t => t.head? ≠ some Name.accent)
      (fun _ => by simp [Name.accent])
      (fun a b r s _ _ hr hs h => Name.quoted_append_inj hr hs h)
      has hbs (fun _ _ => trivial) (fun _ _ => trivial) (no_accent r) (no_accent s)
      (no_comma r) (no_comma s) h
  exact ⟨read.1, (List.cons.inj read.2).2⟩

/-- A list of settings ends before anything but a comma. -/
theorem settings_append_inj {as bs : List String} {r s : List Char} (has : as ≠ []) (hbs : bs ≠ [])
    (hr : r.head? ≠ some ',') (hs : s.head? ≠ some ',')
    (h : ",".toList.intercalate (as.map fun c => Name.quoted c.toList ++ " = ?".toList) ++ r =
      ",".toList.intercalate (bs.map fun c => Name.quoted c.toList ++ " = ?".toList) ++ s) :
    as = bs ∧ r = s := by
  have setting (t : List Char) : (" = ?".toList ++ t).head? ≠ some Name.accent := by
    simp [Name.accent]
  refine Text.intercalate_append_inj (P := fun _ => True) (Q := fun _ => True)
    (fun _ => trivial) ?_ has hbs (fun _ _ => trivial) (fun _ _ => trivial) trivial trivial
    (not_begins_comma hr) (not_begins_comma hs) h
  intro a b r s _ _ _ _ h
  rw [List.append_assoc, List.append_assoc] at h
  obtain ⟨hab, hrest⟩ := Name.quoted_append_inj (setting r) (setting s) h
  exact ⟨hab, List.append_cancel_left hrest⟩

/-- A conjunction ends where no further condition follows. -/
theorem conditions_append_inj {as bs : List (String × Comparator)} {r s : List Char}
    (has : as ≠ []) (hbs : bs ≠ []) (ca : ∀ a ∈ as, ' ' ∉ a.1.toList)
    (cb : ∀ b ∈ bs, ' ' ∉ b.1.toList) (hr : ¬ " AND ".toList <+: r) (hs : ¬ " AND ".toList <+: s)
    (h : " AND ".toList.intercalate
        (as.map fun c => c.1.toList ++ ' ' :: (c.2.sql.toList ++ [' ', '?'])) ++ r =
      " AND ".toList.intercalate
        (bs.map fun c => c.1.toList ++ ' ' :: (c.2.sql.toList ++ [' ', '?'])) ++ s) :
    as = bs ∧ r = s := by
  refine Text.intercalate_append_inj (P := fun c : String × Comparator => ' ' ∉ c.1.toList)
    (Q := fun _ => True) (fun _ => trivial) ?_ has hbs ca cb trivial trivial hr hs h
  intro a b r s ha hb _ _ h
  simp only [List.append_assoc, List.cons_append, List.nil_append] at h
  obtain ⟨hcolumn, hrest⟩ := Text.append_cons_inj ha hb h
  obtain ⟨hcomparator, hrs⟩ := Comparator.sql_append_inj hrest
  exact ⟨Prod.ext (String.toList_inj.1 hcolumn) hcomparator, hrs⟩

theorem isColumn_of_avoids {c : Clause} (h : c.Avoids [' ', ',', Name.accent]) {t : String}
    (ht : t ∈ c.texts) : IsColumn t := by
  rintro x hx (rfl | rfl)
  · exact h t ht ' ' (by decide) hx
  · exact h t ht ',' (by decide) hx

theorem blank_not_mem_of_isColumn {t : String} (h : IsColumn t) : ' ' ∉ t.toList :=
  fun hb => h ' ' hb (Or.inl rfl)

/-! ### One kind of clause after the other -/

theorem select_append_inj {table table' : String} {columns columns' : List String}
    {r s : List Char} (hne : columns ≠ []) (hne' : columns' ≠ [])
    (hc : ∀ c ∈ columns, IsColumn c) (hc' : ∀ c ∈ columns', IsColumn c) (hr : Follows r)
    (hs : Follows s) (h : (select table columns).text ++ r = (select table' columns').text ++ s) :
    table = table' ∧ columns = columns' ∧ r = s := by
  have from_ends (t : List Char) : Text.EndsWord (· = ' ') (" FROM ".toList ++ t) := by
    simp [Text.EndsWord]
  simp only [text_select, List.append_assoc] at h
  obtain ⟨hcolumns, hrest⟩ := columns_append_inj hne hne' hc hc' (from_ends _) (from_ends _)
    (List.append_cancel_left h)
  obtain ⟨htable, hrs⟩ := Name.quoted_append_inj (hr.head?_ne accent_ne_blank)
    (hs.head?_ne accent_ne_blank) (List.append_cancel_left hrest)
  exact ⟨htable, hcolumns, hrs⟩

theorem insertInto_append_inj {table table' : String} {row row' : Row} {r s : List Char}
    (hne : row.columns ≠ []) (hne' : row'.columns ≠ [])
    (h : (insertInto table row).text ++ r = (insertInto table' row').text ++ s) :
    table = table' ∧ row.columns = row'.columns ∧ r = s := by
  have open_ne (t : List Char) : (" (".toList ++ t).head? ≠ some Name.accent := by
    simp [Name.accent]
  have close : ") VALUES (".toList = ')' :: " VALUES (".toList := rfl
  simp only [text_insertInto, close, List.append_assoc, List.cons_append] at h
  obtain ⟨htable, hrest⟩ := Name.quoted_append_inj (open_ne _) (open_ne _)
    (List.append_cancel_left h)
  obtain ⟨hcolumns, hrest⟩ := names_append_inj hne hne' (List.append_cancel_left hrest)
  rw [hcolumns] at hrest
  have hrs := List.append_cancel_left (List.append_cancel_left
    (List.append_cancel_left hrest))
  exact ⟨htable, hcolumns, hrs⟩

theorem update_append_inj {table table' : String} {row row' : Row} {r s : List Char}
    (hne : row.columns ≠ []) (hne' : row'.columns ≠ []) (hr : Follows r) (hs : Follows s)
    (h : (update table row).text ++ r = (update table' row').text ++ s) :
    table = table' ∧ row.columns = row'.columns ∧ r = s := by
  have set_ne (t : List Char) : (" SET ".toList ++ t).head? ≠ some Name.accent := by
    simp [Name.accent]
  have comma_ne : ',' ≠ ' ' := by decide
  simp only [text_update, List.append_assoc] at h
  obtain ⟨htable, hrest⟩ := Name.quoted_append_inj (set_ne _) (set_ne _)
    (List.append_cancel_left h)
  obtain ⟨hcolumns, hrs⟩ := settings_append_inj hne hne' (hr.head?_ne comma_ne)
    (hs.head?_ne comma_ne) (List.append_cancel_left hrest)
  exact ⟨htable, hcolumns, hrs⟩

theorem deleteFrom_append_inj {table table' : String} {r s : List Char} (hr : Follows r)
    (hs : Follows s) (h : (deleteFrom table).text ++ r = (deleteFrom table').text ++ s) :
    table = table' ∧ r = s := by
  simp only [text_deleteFrom, List.append_assoc] at h
  exact Name.quoted_append_inj (hr.head?_ne accent_ne_blank) (hs.head?_ne accent_ne_blank)
    (List.append_cancel_left h)

theorem innerJoin_append_inj {table table' a a' b b' : String} {r s : List Char}
    (ha : IsColumn a) (ha' : IsColumn a') (hb : IsColumn b) (hb' : IsColumn b') (hr : Follows r)
    (hs : Follows s) (h : (innerJoin table a b).text ++ r = (innerJoin table' a' b').text ++ s) :
    table = table' ∧ a = a' ∧ b = b' ∧ r = s := by
  have on_ne (t : List Char) : (" ON ".toList ++ t).head? ≠ some Name.accent := by
    simp [Name.accent]
  have equals : " = ".toList = ' ' :: "= ".toList := rfl
  simp only [text_innerJoin, equals, List.append_assoc, List.cons_append] at h
  obtain ⟨htable, hrest⟩ := Name.quoted_append_inj (on_ne _) (on_ne _) (List.append_cancel_left h)
  obtain ⟨haa, hrest⟩ := Text.append_cons_inj (blank_not_mem_of_isColumn ha)
    (blank_not_mem_of_isColumn ha') (List.append_cancel_left hrest)
  have no_blank {t : String} (ht : IsColumn t) : ∀ c ∈ t.toList, ¬ c = ' ' :=
    fun c hc e => ht c hc (Or.inl e)
  obtain ⟨hbb, hrs⟩ := Text.append_inj_of_endsWord (no_blank hb) (no_blank hb') hr.blank hs.blank
    (List.append_cancel_left hrest)
  exact ⟨htable, String.toList_inj.1 haa, String.toList_inj.1 hbb, hrs⟩

theorem filterAll_append_inj {cs ds : List Condition} {r s : List Char} {ps qs : List Value}
    (hne : cs ≠ []) (hne' : ds ≠ []) (hc : ∀ c ∈ cs, IsColumn c.column)
    (hd : ∀ d ∈ ds, IsColumn d.column) (hr : Follows r) (hs : Follows s)
    (h : (filterAll cs).text ++ r = (filterAll ds).text ++ s)
    (hp : cs.map Condition.value ++ ps = ds.map Condition.value ++ qs) :
    cs = ds ∧ r = s ∧ ps = qs := by
  let head (c : Condition) : String × Comparator := (c.column, c.comparator)
  have heads : cs.map head = ds.map head ∧ r = s := by
    apply conditions_append_inj (by simpa using hne) (by simpa using hne') _ _ hr.no_and hs.no_and
    · have := List.append_cancel_left
        (by simpa only [text_filterAll, List.append_assoc] using h)
      simpa only [List.map_map, Function.comp_def, head] using this
    · intro a ha
      obtain ⟨c, hc', rfl⟩ := List.mem_map.1 ha
      exact blank_not_mem_of_isColumn (hc c hc')
    · intro a ha
      obtain ⟨c, hc', rfl⟩ := List.mem_map.1 ha
      exact blank_not_mem_of_isColumn (hd c hc')
  have hlen : (cs.map Condition.value).length = (ds.map Condition.value).length := by
    simpa using congrArg List.length heads.1
  obtain ⟨hvalues, hps⟩ := List.append_inj hp hlen
  refine ⟨?_, heads.2, hps⟩
  have inj : Function.Injective fun c : Condition => (head c, c.value) := by
    rintro ⟨a, b, c⟩ ⟨a', b', c'⟩ e
    simp only [head, Prod.mk.injEq] at e
    rw [e.1.1, e.1.2, e.2]
  apply List.map_injective_iff.2 inj
  have both (es : List Condition) :
      es.map (fun c => (head c, c.value)) = (es.map head).zip (es.map Condition.value) := by
    rw [List.zip_map']
  rw [both, both, heads.1, hvalues]

theorem returning_append_inj {columns columns' : List String} {r s : List Char}
    (hne : columns ≠ []) (hne' : columns' ≠ []) (hc : ∀ c ∈ columns, IsColumn c)
    (hc' : ∀ c ∈ columns', IsColumn c) (hr : Follows r) (hs : Follows s)
    (h : (returning columns).text ++ r = (returning columns').text ++ s) :
    columns = columns' ∧ r = s := by
  simp only [text_returning, List.append_assoc] at h
  exact columns_append_inj hne hne' hc hc' hr.blank hs.blank (List.append_cancel_left h)

/-! ### All clauses -/

/-- Texts and parameters of two clauses that are equal up to what follows: the clauses and what
follows are equal. -/
theorem text_append_inj {c d : Clause} {r s : List Char} {ps qs : List Value}
    (hc : c.fault? = none) (hd : d.fault? = none) (kc : c.kind ≠ .filter) (kd : d.kind ≠ .filter)
    (ac : c.Avoids [' ', ',', Name.accent]) (ad : d.Avoids [' ', ',', Name.accent])
    (hr : Follows r) (hs : Follows s) (h : c.text ++ r = d.text ++ s)
    (hp : c.params ++ ps = d.params ++ qs) : c = d ∧ r = s ∧ ps = qs := by
  have hkind := kind_eq_of_text_append (kind_mem_mergedKinds hc kc) (kind_mem_mergedKinds hd kd) h
  have isC {t : String} (ht : t ∈ c.texts) : IsColumn t := isColumn_of_avoids ac ht
  have isD {t : String} (ht : t ∈ d.texts) : IsColumn t := isColumn_of_avoids ad ht
  cases c with
  | select table columns =>
    cases d with
    | select table' columns' =>
      have hne : columns ≠ [] := by simpa [fault?] using hc
      have hne' : columns' ≠ [] := by simpa [fault?] using hd
      obtain ⟨rfl, rfl, hrs⟩ := select_append_inj hne hne' (fun _ => isC) (fun _ => isD) hr hs h
      exact ⟨rfl, hrs, hp⟩
    | _ => exact absurd hkind (by simp [kind])
  | insertInto table row =>
    cases d with
    | insertInto table' row' =>
      have hne : row.columns ≠ [] := Row.columns_ne_nil (by simpa [fault?] using hc)
      have hne' : row'.columns ≠ [] := Row.columns_ne_nil (by simpa [fault?] using hd)
      obtain ⟨rfl, hcolumns, hrs⟩ := insertInto_append_inj hne hne' h
      obtain ⟨rfl, hps⟩ := row_append_inj hcolumns hp
      exact ⟨rfl, hrs, hps⟩
    | _ => exact absurd hkind (by simp [kind])
  | update table row =>
    cases d with
    | update table' row' =>
      have hne : row.columns ≠ [] := Row.columns_ne_nil (by simpa [fault?] using hc)
      have hne' : row'.columns ≠ [] := Row.columns_ne_nil (by simpa [fault?] using hd)
      obtain ⟨rfl, hcolumns, hrs⟩ := update_append_inj hne hne' hr hs h
      obtain ⟨rfl, hps⟩ := row_append_inj hcolumns hp
      exact ⟨rfl, hrs, hps⟩
    | _ => exact absurd hkind (by simp [kind])
  | deleteFrom table =>
    cases d with
    | deleteFrom table' =>
      obtain ⟨rfl, hrs⟩ := deleteFrom_append_inj hr hs h
      exact ⟨rfl, hrs, hp⟩
    | _ => exact absurd hkind (by simp [kind])
  | innerJoin table tableColumn column =>
    cases d with
    | innerJoin table' tableColumn' column' =>
      obtain ⟨rfl, rfl, rfl, hrs⟩ := innerJoin_append_inj (isC List.mem_cons_self)
        (isD List.mem_cons_self) (isC (List.mem_cons_of_mem _ List.mem_cons_self))
        (isD (List.mem_cons_of_mem _ List.mem_cons_self)) hr hs h
      exact ⟨rfl, hrs, hp⟩
    | _ => exact absurd hkind (by simp [kind])
  | filter c => exact absurd rfl kc
  | filterAll conditions =>
    cases d with
    | filterAll conditions' =>
      have hne : conditions ≠ [] := by simpa [fault?] using hc
      have hne' : conditions' ≠ [] := by simpa [fault?] using hd
      obtain ⟨rfl, hrs, hps⟩ := filterAll_append_inj hne hne'
        (fun _ h => isC (List.mem_map_of_mem h)) (fun _ h => isD (List.mem_map_of_mem h)) hr hs h hp
      exact ⟨rfl, hrs, hps⟩
    | _ => exact absurd hkind (by simp [kind])
  | returning columns =>
    cases d with
    | returning columns' =>
      have hne : columns ≠ [] := by simpa [fault?] using hc
      have hne' : columns' ≠ [] := by simpa [fault?] using hd
      obtain ⟨rfl, hrs⟩ := returning_append_inj hne hne' (fun _ => isC) (fun _ => isD) hr hs h
      exact ⟨rfl, hrs, hp⟩
    | _ => exact absurd hkind (by simp [kind])
  | unknown => exact absurd hc (by simp [fault?])

/-! ## Reading lists of clauses -/

/-- A clause begins with a letter that is not the first of `AND`. -/
theorem exists_text_eq_cons {c : Clause} (hc : c.fault? = none) :
    ∃ x t, c.text = x :: t ∧ x ≠ 'A' := by
  cases c with
  | unknown => exact absurd hc (by simp [fault?])
  | select table columns => exact ⟨'S', _, rfl, by decide⟩
  | insertInto table row => exact ⟨'I', _, rfl, by decide⟩
  | update table row => exact ⟨'U', _, rfl, by decide⟩
  | deleteFrom table => exact ⟨'D', _, rfl, by decide⟩
  | innerJoin table tableColumn column => exact ⟨'I', _, rfl, by decide⟩
  | filter c => exact ⟨'W', _, rfl, by decide⟩
  | filterAll conditions => exact ⟨'W', _, rfl, by decide⟩
  | returning columns => exact ⟨'R', _, rfl, by decide⟩

theorem follows_tailText {cs : List Clause} (h : ∀ c ∈ cs, c.fault? = none) :
    Follows (tailText cs) := by
  have hand : " AND ".toList = ' ' :: 'A' :: "ND ".toList := rfl
  cases cs with
  | nil => exact ⟨Text.endsWord_nil _, by decide⟩
  | cons c cs =>
    obtain ⟨x, t, hx, hne⟩ := exists_text_eq_cons (h c List.mem_cons_self)
    refine ⟨Text.endsWord_cons (p := (· = ' ')) rfl _, ?_⟩
    rw [hand, tailText, hx]
    rintro ⟨u, hu⟩
    simp only [List.cons_append, List.cons.injEq] at hu
    exact hne hu.2.1.symm

/-- A clause that is written, is no filter by one condition, and holds no blanks, commas and
accents in the texts that stand as they are. -/
structure Readable (c : Clause) : Prop where
  fault : c.fault? = none
  kind_ne : c.kind ≠ .filter
  avoids : c.Avoids [' ', ',', Name.accent]

theorem tailText_inj {cs ds : List Clause} (hc : ∀ c ∈ cs, c.Readable) (hd : ∀ d ∈ ds, d.Readable)
    (h : tailText cs = tailText ds) (hp : listParams cs = listParams ds) : cs = ds := by
  induction cs generalizing ds with
  | nil =>
    cases ds with
    | nil => rfl
    | cons d ds => exact nomatch h
  | cons c cs ih =>
    cases ds with
    | nil => exact nomatch h
    | cons d ds =>
      obtain ⟨rc, hcs⟩ := List.forall_mem_cons.1 hc
      obtain ⟨rd, hds⟩ := List.forall_mem_cons.1 hd
      obtain ⟨rfl, htail, hparams⟩ := text_append_inj rc.fault rd.fault rc.kind_ne rd.kind_ne
        rc.avoids rd.avoids (follows_tailText fun c h => (hcs c h).fault)
        (follows_tailText fun c h => (hds c h).fault) (List.cons.inj h).2 hp
      rw [ih hcs hds htail hparams]

theorem listText_inj {cs ds : List Clause} (hc : ∀ c ∈ cs, c.Readable) (hd : ∀ d ∈ ds, d.Readable)
    (h : listText cs = listText ds) (hp : listParams cs = listParams ds) : cs = ds := by
  have first {c : Clause} {cs : List Clause} (rc : c.Readable) : listText (c :: cs) ≠ [] := by
    obtain ⟨x, t, hx, -⟩ := exists_text_eq_cons rc.fault
    rw [listText, hx]
    exact List.cons_ne_nil _ _
  cases cs with
  | nil =>
    cases ds with
    | nil => rfl
    | cons d ds => exact absurd h.symm (first (hd d List.mem_cons_self))
  | cons c cs =>
    cases ds with
    | nil => exact absurd h (first (hc c List.mem_cons_self))
    | cons d ds =>
      -- After a blank both texts are of the form that the induction is on.
      exact tailText_inj hc hd (congrArg (' ' :: ·) h) hp

end Clause

namespace Statement

theorem written_map_merged (cs : List Clause) : written (cs.map Clause.merged) = written cs := by
  rw [← join_map_written, ← join_map_written, List.map_map]
  congr 1
  exact List.map_congr_left fun c _ => Clause.written_merged c

/-- Two lists of clauses whose texts hold no blanks, commas and accents give the same statement
exactly when they are the same up to filters by one condition. -/
theorem eq_iff_map_merged_eq {cs ds : List Clause} {s t : Statement} (hs : ofClauses cs = .ok s)
    (ht : ofClauses ds = .ok t) (hc : ∀ c ∈ cs, c.Avoids [' ', ',', Name.accent])
    (hd : ∀ d ∈ ds, d.Avoids [' ', ',', Name.accent]) :
    s = t ↔ cs.map Clause.merged = ds.map Clause.merged := by
  obtain ⟨fc, rfl⟩ := ofClauses_eq_ok_iff.1 hs
  obtain ⟨fd, rfl⟩ := ofClauses_eq_ok_iff.1 ht
  have readable {es : List Clause} (fe : ∀ e ∈ es, e.fault? = none)
      (he : ∀ e ∈ es, e.Avoids [' ', ',', Name.accent]) :
      ∀ e ∈ es.map Clause.merged, e.Readable := by
    intro e' he'
    obtain ⟨e, hmem, rfl⟩ := List.mem_map.1 he'
    refine ⟨?_, Clause.kind_merged_ne e, ?_⟩
    · rw [Clause.fault?_merged, fe e hmem]
    · unfold Clause.Avoids
      rw [Clause.texts_merged]
      exact he e hmem
  rw [← written_map_merged cs, ← written_map_merged ds]
  constructor
  · intro h
    obtain ⟨hsql, hparams⟩ := Statement.mk.inj h
    exact Clause.listText_inj (readable fc hc) (readable fd hd) (String.ofList_injective hsql)
      hparams
  · intro h
    rw [h]

/-- One condition, written as a filter and as a conjunction, under a name with an accent in it. -/
theorem eq_iff_map_merged_eq_one_condition :
    ofClauses [.deleteFrom "a`, b", .filter ⟨"id", .notSame, .null⟩] =
        .ok ⟨"DELETE FROM `a``, b` WHERE id IS NOT ?", [.null]⟩ ∧
      ofClauses [.deleteFrom "a`, b", .filterAll [⟨"id", .notSame, .null⟩]] =
        .ok ⟨"DELETE FROM `a``, b` WHERE id IS NOT ?", [.null]⟩ ∧
      (∀ c ∈ [Clause.deleteFrom "a`, b", .filter ⟨"id", .notSame, .null⟩],
        c.Avoids [' ', ',', Name.accent]) ∧
      (∀ c ∈ [Clause.deleteFrom "a`, b", .filterAll [⟨"id", .notSame, .null⟩]],
        c.Avoids [' ', ',', Name.accent]) ∧
      [Clause.deleteFrom "a`, b", .filter ⟨"id", .notSame, .null⟩].map Clause.merged =
        [Clause.deleteFrom "a`, b", .filterAll [⟨"id", .notSame, .null⟩]].map Clause.merged := by
  have hs : ofClauses [.deleteFrom "a`, b", .filter ⟨"id", .notSame, .null⟩] =
      .ok ⟨"DELETE FROM `a``, b` WHERE id IS NOT ?", [.null]⟩ := by decide
  have ht : ofClauses [.deleteFrom "a`, b", .filterAll [⟨"id", .notSame, .null⟩]] =
      .ok ⟨"DELETE FROM `a``, b` WHERE id IS NOT ?", [.null]⟩ := by decide
  have hc : ∀ c ∈ [Clause.deleteFrom "a`, b", .filter ⟨"id", .notSame, .null⟩],
      c.Avoids [' ', ',', Name.accent] :=
    List.forall_mem_cons.2 ⟨by decide, List.forall_mem_singleton.2 (by decide)⟩
  have hd : ∀ c ∈ [Clause.deleteFrom "a`, b", .filterAll [⟨"id", .notSame, .null⟩]],
      c.Avoids [' ', ',', Name.accent] :=
    List.forall_mem_cons.2 ⟨by decide, List.forall_mem_singleton.2 (by decide)⟩
  exact ⟨hs, ht, hc, hd, (eq_iff_map_merged_eq hs ht hc hd).1 rfl⟩

end Statement

end BoundSql
