import BoundSql.Comparator
import Mathlib.Data.List.TakeWhile

/-!
# Spellings of comparators

There are three tables: the spellings in SQL, those in JSON, and those that a person can write.  The
first two are the same (`Comparator.spelling_eq_sql`).  A person can write each spelling in any case
of ASCII letters and with blanks around it, and nothing else (`Comparator.parse_eq_ok_iff_variant`);
JSON accepts no such variant (`Comparator.ofSpelling?_eq_some_iff`).
-/

namespace BoundSql

namespace Text

/-! ## Blanks and letters -/

theorem toNat_toUpper (c : Char) :
    c.toUpper.toNat = if 97 ≤ c.toNat ∧ c.toNat ≤ 122 then c.toNat - 32 else c.toNat := by
  have lower : ('a'.val ≤ c.val ∧ c.val ≤ 'z'.val) ↔ 97 ≤ c.toNat ∧ c.toNat ≤ 122 := Iff.rfl
  have step : ('A'.val - 'a'.val).toNat = 4294967264 := rfl
  unfold Char.toUpper
  split
  · next h =>
    have bounds := lower.1 h
    rw [if_pos bounds]
    refine (UInt32.toNat_add _ _).trans ?_
    rw [step, Char.toNat_val]
    omega
  · next h => rw [if_neg (mt lower.2 h)]

/-- No letter is a blank, in whatever case. -/
theorem isBlank_toUpper (c : Char) : isBlank c.toUpper = isBlank c := by
  have letter {n : Nat} (h : 65 ≤ n ∧ n ≤ 122) : blankPoints.contains n = false := by
    rw [Bool.eq_false_iff, Ne, List.contains_iff_mem]
    simp only [blankPoints, List.mem_cons, List.not_mem_nil, or_false]
    omega
  rw [isBlank, isBlank, toNat_toUpper]
  split
  · next lower => rw [letter (by omega), letter (by omega)]
  · rfl

theorem trim_map_toUpper (s : List Char) : trim (s.map Char.toUpper) = (trim s).map Char.toUpper := by
  have same : isBlank ∘ Char.toUpper = isBlank := funext isBlank_toUpper
  rw [trim, List.dropWhile_map, same, ← List.map_reverse, List.dropWhile_map, same,
    ← List.map_reverse]
  rfl

/-- Blanks at the ends of a text do not matter to what is between them. -/
theorem trim_append {front back : List Char} (hfront : ∀ c ∈ front, isBlank c = true)
    (hback : ∀ c ∈ back, isBlank c = true) (s : List Char) : trim (front ++ s ++ back) = trim s := by
  rw [trim, List.append_assoc, List.dropWhile_append_of_pos hfront, List.dropWhile_append]
  split
  · next blank =>
    have none : s.dropWhile isBlank = [] := List.isEmpty_iff.1 blank
    rw [trim, none, List.dropWhile_eq_nil_iff.2 hback]
  · rw [List.reverse_append, List.dropWhile_append_of_pos fun c hc => hback c (List.mem_reverse.1 hc)]
    rfl

/-- What is trimmed off a text are blanks at its ends. -/
theorem exists_eq_append_trim (s : List Char) :
    ∃ front back, s = front ++ trim s ++ back ∧ (∀ c ∈ front, isBlank c = true) ∧
      ∀ c ∈ back, isBlank c = true := by
  have left : s = s.takeWhile isBlank ++ s.dropWhile isBlank :=
    List.takeWhile_append_dropWhile.symm
  have right : s.dropWhile isBlank =
      trim s ++ ((s.dropWhile isBlank).reverse.takeWhile isBlank).reverse := by
    rw [trim, ← List.reverse_append, List.takeWhile_append_dropWhile, List.reverse_reverse]
  refine ⟨s.takeWhile isBlank, ((s.dropWhile isBlank).reverse.takeWhile isBlank).reverse, ?_,
    fun c hc => List.mem_takeWhile_imp hc, fun c hc => ?_⟩
  · rw [List.append_assoc, ← right, ← left]
  · exact List.mem_takeWhile_imp (List.mem_reverse.1 hc)

/-- The text `t` is `s` up to the case of ASCII letters, with blanks around it. -/
def Variant (s t : List Char) : Prop :=
  ∃ front word back, t = front ++ word ++ back ∧ (∀ c ∈ front, isBlank c = true) ∧
    (∀ c ∈ back, isBlank c = true) ∧ word.map Char.toUpper = s.map Char.toUpper

theorem Variant.map_toUpper_trim {s t : List Char} (h : Variant s t) :
    (trim t).map Char.toUpper = (trim s).map Char.toUpper := by
  obtain ⟨front, word, back, rfl, hfront, hback, hword⟩ := h
  rw [trim_append hfront hback, ← trim_map_toUpper, hword, trim_map_toUpper]

end Text

namespace Comparator

open Text (Variant trim)

/-! ## The three tables -/

theorem spelling_eq_sql (c : Comparator) : c.spelling = c.sql := by
  cases c <;> rfl

/-- The spellings that can stand in SQL. -/
def spellings : List String :=
  ["=", "!=", "<>", "<", "<=", ">", ">=", "LIKE", "NOT LIKE", "IS", "IS NOT"]

theorem sql_mem_spellings (c : Comparator) : c.sql ∈ spellings := by
  cases c <;> decide

/-- Comparators with the same spelling are the same. -/
theorem sql_inj {a b : Comparator} (h : a.sql = b.sql) : a = b := by
  have table : ∀ a ∈ all, ∀ b ∈ all, a.sql = b.sql → a = b := by decide
  exact table a (mem_all a) b (mem_all b) h

theorem ofSpelling?_spelling (c : Comparator) : ofSpelling? c.spelling = some c := by
  cases c <;> decide

/-- JSON accepts the spellings as they are. -/
theorem ofSpelling?_eq_some_iff {s : String} {c : Comparator} :
    ofSpelling? s = some c ↔ s = c.sql := by
  rw [← spelling_eq_sql]
  constructor
  · intro h
    rw [ofSpelling?] at h
    have found := List.find?_some h
    exact (eq_of_beq found).symm
  · rintro rfl
    exact c.ofSpelling?_spelling

/-- A person can write the spellings in any case of letters and between blanks. -/
theorem parse_eq_ok_iff {s : String} {c : Comparator} : parse s = .ok c ↔ canonical s = c.sql := by
  constructor
  · intro h
    unfold parse at h
    split at h <;> cases h <;> assumption
  · intro h
    unfold parse
    rw [h]
    cases c <;> rfl

theorem trim_sql (c : Comparator) : trim c.sql.toList = c.sql.toList := by
  cases c <;> decide

theorem map_toUpper_sql (c : Comparator) : c.sql.toList.map Char.toUpper = c.sql.toList := by
  cases c <;> decide

theorem canonical_sql (c : Comparator) : canonical c.sql = c.sql := by
  rw [canonical, trim_sql, map_toUpper_sql, String.ofList_toList]

theorem canonical_eq_of_variant {s t : String} (h : Variant s.toList t.toList) :
    canonical t = canonical s :=
  congrArg String.ofList h.map_toUpper_trim

/-- Whether a text is accepted, as what, and how it is refused, does not depend on the case of its
letters and on blanks around it. -/
theorem parse_eq_of_variant {s t : String} (h : Variant s.toList t.toList) : parse t = parse s := by
  rw [parse, parse, canonical_eq_of_variant h]

theorem parse_eq_ok_iff_variant {s : String} {c : Comparator} :
    parse s = .ok c ↔ Variant c.sql.toList s.toList := by
  constructor
  · intro h
    obtain ⟨front, back, split, hfront, hback⟩ := Text.exists_eq_append_trim s.toList
    refine ⟨front, trim s.toList, back, split, hfront, hback, ?_⟩
    have spelled : (trim s.toList).map Char.toUpper = c.sql.toList := by
      rw [← parse_eq_ok_iff.1 h, canonical, String.toList_ofList]
    rw [spelled, map_toUpper_sql]
  · intro h
    rw [parse_eq_of_variant h, parse_eq_ok_iff, canonical_sql]

end Comparator

end BoundSql
