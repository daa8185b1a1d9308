import BoundSql.Execution.Trace
import Mathlib.Data.List.Infix

/-!
# How much of a statement is logged

A text is cut by going back, byte by byte, from the limit to an offset at which it can be cut.  Such
offsets are the sizes of its beginnings (`Text.takeBytes?_eq_some_iff`), and going back misses none of
them (`Text.le_lastBoundary`), so what is left is the longest beginning that fits into the limit
(`Text.LongestFit`) and nothing is cut inside a character.  This is what is logged of a statement that
does not fit, with three dots after it (`Settings.announces_longest_fit`).
-/

namespace BoundSql

namespace Text

/-! ## Beginnings of a text -/

theorem byteSize_append (s t : List Char) : byteSize (s ++ t) = byteSize s + byteSize t := by
  induction s with
  | nil => exact (Nat.zero_add _).symm
  | cons c s ih => rw [List.cons_append, byteSize, byteSize, ih, Nat.add_assoc]

theorem byteSize_toList (s : String) : byteSize s.toList = s.utf8ByteSize := by
  rw [byteSize_eq_utf8ByteSize, String.ofList_toList]

theorem byteSize_le_byteSize {p s : List Char} (h : p <+: s) : byteSize p ≤ byteSize s := by
  obtain ⟨t, rfl⟩ := h
  rw [byteSize_append]
  exact Nat.le_add_right _ _

/-- A beginning of a text can be cut off at its size. -/
theorem takeBytes?_append (p t : List Char) : takeBytes? (byteSize p) (p ++ t) = some p := by
  induction p with
  | nil => cases t <;> rfl
  | cons c p ih =>
    obtain ⟨n, size⟩ := Nat.exists_eq_succ_of_ne_zero (Nat.ne_of_gt c.utf8Size_pos)
    have whole : byteSize (c :: p) = n + byteSize p + 1 := by
      rw [byteSize, size]
      omega
    have fits : c.utf8Size ≤ n + byteSize p + 1 := by omega
    have left : n + byteSize p + 1 - c.utf8Size = byteSize p := by omega
    rw [whole, List.cons_append, takeBytes?, if_pos fits, left, ih]
    rfl

/-- What can be cut off a text are its beginnings, each at its size. -/
theorem takeBytes?_eq_some_iff {n : Nat} {s p : List Char} :
    takeBytes? n s = some p ↔ p <+: s ∧ byteSize p = n := by
  constructor
  · intro h
    fun_induction takeBytes? n s generalizing p with
    | case1 s =>
      obtain rfl := Option.some.inj h
      exact ⟨List.nil_prefix, rfl⟩
    | case2 n => exact nomatch h
    | case3 n c s fits ih =>
      obtain ⟨q, hq, rfl⟩ := Option.map_eq_some_iff.1 h
      obtain ⟨begins, size⟩ := ih hq
      refine ⟨(List.prefix_cons_inj c).2 begins, ?_⟩
      rw [byteSize, size]
      omega
    | case4 n c s larger => exact nomatch h
  · rintro ⟨⟨t, rfl⟩, rfl⟩
    exact takeBytes?_append p t

/-! ## The last boundary -/

/-- Going back from an offset stops at the first boundary that is met. -/
theorem le_lastBoundary {bytes : List UInt8} {n i : Nat} (h : isBoundary bytes i = true)
    (hi : i ≤ n) : i ≤ lastBoundary bytes n := by
  induction n with
  | zero => exact hi
  | succ n ih =>
    unfold lastBoundary
    split
    · exact hi
    · next inside =>
      have ne : i ≠ n + 1 := fun e => inside (e ▸ h)
      exact ih (by omega)

/-- Beginnings of one text are ordered as their sizes are. -/
theorem prefix_of_byteSize_le {p q s : List Char} (hp : p <+: s) (hq : q <+: s)
    (h : byteSize q ≤ byteSize p) : q <+: p := by
  rcases List.prefix_or_prefix_of_prefix hq hp with shorter | longer
  · exact shorter
  · have size : byteSize q = byteSize p := Nat.le_antisymm h (byteSize_le_byteSize longer)
    have same : some q = some p :=
      (takeBytes?_eq_some_iff.2 ⟨hq, rfl⟩).symm.trans (takeBytes?_eq_some_iff.2 ⟨hp, size.symm⟩)
    rw [Option.some.inj same]

/-- The longest beginning of a text, in whole characters, that has at most `limit` bytes. -/
structure LongestFit (limit : Nat) (s p : String) : Prop where
  begins : p.toList <+: s.toList
  fits : p.utf8ByteSize ≤ limit
  longest : ∀ q : String, q.toList <+: s.toList → q.utf8ByteSize ≤ limit → q.toList <+: p.toList

/-- A text can be cut at the last boundary within a limit, and what is left is the longest beginning
that fits. -/
theorem exists_clip?_eq_some (limit : Nat) (s : String) :
    ∃ p : String, clip? limit s.toList = some p.toList ∧ LongestFit limit s p := by
  unfold clip?
  split
  · next fits =>
    rw [byteSize_toList] at fits
    exact ⟨s, rfl, List.prefix_rfl, fits, fun q hq _ => hq⟩
  · have cuts := isSome_takeBytes? s.toList (lastBoundary (bytes s.toList) limit)
    rw [isBoundary_lastBoundary] at cuts
    obtain ⟨p, hp⟩ := Option.isSome_iff_exists.1 cuts
    obtain ⟨begins, size⟩ := takeBytes?_eq_some_iff.1 hp
    refine ⟨.ofList p, ?_, ?_, ?_, fun q hq within => ?_⟩
    · rw [hp, String.toList_ofList]
    · rwa [String.toList_ofList]
    · rw [← byteSize_eq_utf8ByteSize, size]
      exact lastBoundary_le _ _
    · have boundary : isBoundary (bytes s.toList) (byteSize q.toList) = true := by
        rw [← isSome_takeBytes?, takeBytes?_eq_some_iff.2 ⟨hq, rfl⟩, Option.isSome_some]
      rw [← byteSize_toList] at within
      rw [String.toList_ofList]
      refine prefix_of_byteSize_le begins hq ?_
      rw [size]
      exact le_lastBoundary boundary within

theorem abridge_eq_of_clip?_eq_some {limit : Nat} {s p : List Char} (h : clip? limit s = some p) :
    abridge limit s = if byteSize s ≤ limit then s else p ++ ['.', '.', '.'] := by
  have cut : clip limit s = p := Option.get_of_eq_some _ h
  rw [abridge, cut]

end Text

namespace Settings

/-- Whatever the text and the limit are, cutting the text is never refused and leaves the longest
beginning that fits; and what is logged of a statement is its text when there is no limit or the text
fits into it, and otherwise this beginning and three dots. -/
theorem announces_longest_fit :
    (∀ (s : String) (limit : Nat), ∃ p : String,
      Text.clip? limit s.toList = some p.toList ∧ Text.LongestFit limit s p) ∧
    ∀ (settings : Settings) (op : Operation) (s : Statement), ∃ logged,
      settings.announce op s =
        .statement settings.logLevel op (.ofSql s.sql) s.params.length logged ∧
      (settings.maxSqlBytes = none → logged = s.sql) ∧
      ∀ limit, settings.maxSqlBytes = some limit →
        (s.sql.utf8ByteSize ≤ limit → logged = s.sql) ∧
        (limit < s.sql.utf8ByteSize → ∃ p : String,
          Text.clip? limit s.sql.toList = some p.toList ∧ logged = p ++ "...") := by
  refine ⟨fun s limit => Text.exists_clip?_eq_some limit s, fun settings op s => ?_⟩
  refine ⟨settings.loggedSql s.sql, rfl, fun whole => ?_, fun limit limited => ?_⟩
  · rw [loggedSql, whole]
  · obtain ⟨p, cut, -⟩ := Text.exists_clip?_eq_some limit s.sql
    have logged : settings.loggedSql s.sql = .ofList (Text.abridge limit s.sql.toList) := by
      rw [loggedSql, limited]
    rw [logged, Text.abridge_eq_of_clip?_eq_some cut, Text.byteSize_toList]
    constructor
    · intro fits
      rw [if_pos fits, String.ofList_toList]
    · intro exceeds
      refine ⟨p, cut, ?_⟩
      rw [if_neg (Nat.not_le_of_lt exceeds), String.ofList_append, String.ofList_toList]

/-- The limit is inside a character of four bytes, after one of three. -/
theorem announces_longest_fit_inside_character :
    (default.withMaxSqlBytes 6).maxSqlBytes = some 6 ∧ 6 < "a漢😀".utf8ByteSize ∧
      (default.withMaxSqlBytes 6).announce .run ⟨"a漢😀", []⟩ =
        .statement .debug .run .other 0 "a漢..." := by
  have exceeds : 6 < "a漢😀".utf8ByteSize := by decide
  obtain ⟨logged, event, -, limited⟩ :=
    announces_longest_fit.2 (default.withMaxSqlBytes 6) .run ⟨"a漢😀", []⟩
  obtain ⟨p, cut, shown⟩ := (limited 6 rfl).2 exceeds
  have front : Text.clip? 6 "a漢😀".toList = some "a漢".toList := by decide +kernel
  have same : p = "a漢" := String.toList_inj.1 (Option.some.inj (cut.symm.trans front))
  have kind : Statement.Kind.ofSql "a漢😀" = .other := by decide +kernel
  refine ⟨rfl, exceeds, ?_⟩
  rw [event, shown, same, kind]
  decide

end Settings

end BoundSql
