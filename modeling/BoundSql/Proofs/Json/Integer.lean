import BoundSql.Json.Token
import Mathlib.Data.List.TakeWhile

/-!
# Integers in JSON text

The numeral that is written for an integer consists of decimal digits without a superfluous zero in
front, after a minus sign when it is negative.  Such a numeral is split into its sign and its digits
(`Numeral.ofText?_digits`), its digits are taken one by one as long as 64 bits hold the number so far
(`Numeral.takeWhole_eq`), and so every integer of 64 bits with sign is read back from its text
(`Number.ofText?_text_integer`).
-/

namespace BoundSql

/-! ## Decimal digits -/

theorem isDigit_of_mem_natText {n : Nat} {c : Char} (h : c ∈ natText n) : c.isDigit = true :=
  Nat.isDigit_of_mem_toDigits (by decide) (by decide) h

/-- The digits of a number that is not zero begin with one that is not. -/
theorem exists_natText_eq_cons {n : Nat} (h : 0 < n) : ∃ c s, natText n = c :: s ∧ c ≠ '0' := by
  induction n using Nat.strongRecOn with
  | ind n ih =>
    by_cases small : n < 10
    · have digit : ∀ n < 10, 0 < n → Nat.digitChar n ≠ '0' := by decide
      exact ⟨_, [], Nat.toDigits_of_lt_base small, digit n small h⟩
    · obtain ⟨c, s, hs, hc⟩ := ih (n / 10) (by omega) (by omega)
      refine ⟨c, s ++ [Nat.digitChar (n % 10)], ?_, hc⟩
      have split : natText n = natText (n / 10) ++ [Nat.digitChar (n % 10)] :=
        Nat.toDigits_of_base_le (by decide) (by omega)
      rw [split, hs, List.cons_append]

namespace Json

namespace Numeral

/-! ## Splitting a numeral -/

theorem isWhole_natText (n : Nat) : isWhole (natText n) = true := by
  rcases Nat.eq_zero_or_pos n with rfl | h
  · rfl
  · obtain ⟨c, s, hs, hc⟩ := exists_natText_eq_cons h
    rw [hs]
    cases s with
    | nil => rfl
    | cons d s => simpa [isWhole] using hc

/-- The sign in front of a numeral. -/
def signText (negative : Bool) : List Char := if negative then ['-'] else []

/-- A numeral of digits alone, after a sign, has neither fraction nor exponent. -/
theorem ofText?_digits (negative : Bool) {digits : List Char} (h : ∀ c ∈ digits, c.isDigit = true)
    (whole : isWhole digits = true) :
    ofText? (signText negative ++ digits) =
      some ⟨negative, digitValues digits, [], none⟩ := by
  have span : spanDigits digits = (digits, []) := by
    unfold spanDigits
    rw [List.takeWhile_eq_self_iff.2 h, List.dropWhile_eq_nil_iff.2 h]
  cases negative with
  | true =>
    unfold ofText? signText
    simp only [if_true, List.cons_append, List.nil_append, span, if_pos whole]
    rfl
  | false =>
    -- The first digit is not taken for a sign.
    cases digits with
    | nil => exact nomatch whole
    | cons c s =>
      have hc : c ≠ '-' := by
        rintro rfl
        exact absurd (h '-' List.mem_cons_self) (by decide)
      unfold ofText? signText
      simp only [Bool.false_eq_true, if_false, List.nil_append]
      split
      · next heq => exact absurd (List.cons.inj heq).1 hc
      · simp only [span, if_pos whole]
        rfl

/-! ## The value of digits -/

theorem ofDigits_digitValues (s : List Char) : ofDigits (digitValues s) = Nat.ofDigitChars 10 s 0 := by
  unfold ofDigits digitValues Nat.ofDigitChars
  rw [List.foldl_map]
  simp only [Nat.mul_comm]

theorem ofDigits_natText (n : Nat) : ofDigits (digitValues (natText n)) = n := by
  rw [ofDigits_digitValues, ofDigitChars_natText]

/-- Digits are taken as long as 64 bits hold the number so far. -/
theorem takeWhole_eq {n : Nat} {ds : List Nat}
    (h : ds.foldl (fun n d => n * 10 + d) n < wordLimit) :
    takeWhole n ds = (ds.foldl (fun n d => n * 10 + d) n, 0) := by
  have grows (n : Nat) (ds : List Nat) : n ≤ ds.foldl (fun n d => n * 10 + d) n := by
    induction ds generalizing n with
    | nil => exact Nat.le_refl n
    | cons d ds ih => exact Nat.le_trans (by omega) (ih (n * 10 + d))
  induction ds generalizing n with
  | nil => rfl
  | cons d ds ih =>
    rw [List.foldl_cons] at h ⊢
    rw [takeWhole, if_pos (Nat.lt_of_le_of_lt (grows _ ds) h), ih h]

theorem value?_of_lt (negative : Bool) {ds : List Nat} (h : ofDigits ds < wordLimit) :
    value? ⟨negative, ds, [], none⟩ = some (integerValue negative (ofDigits ds)) := by
  have taken : takeWhole 0 ds = (ofDigits ds, 0) := takeWhole_eq h
  unfold value?
  simp [taken]

end Numeral

/-! ## Integers of 64 bits -/

theorem intText_eq (n : Int) :
    intText n = Numeral.signText (decide (n < 0)) ++ natText n.natAbs := by
  unfold intText Numeral.signText
  by_cases h : n < 0
  · simp [h]
  · simp [h]

theorem Number.ofText?_text_integer (n : Int64) :
    ofText? (Number.integer n).text = some (.integer n) := by
  have lower : -(2 : Int) ^ 63 ≤ n.toInt := n.le_toInt
  have upper : n.toInt < (2 : Int) ^ 63 := n.toInt_lt
  have limits : twoPow 63 = 2 ^ 63 ∧ Numeral.wordLimit = 2 ^ 64 := ⟨rfl, rfl⟩
  have small : Numeral.ofDigits (Numeral.digitValues (natText n.toInt.natAbs)) <
      Numeral.wordLimit := by
    rw [Numeral.ofDigits_natText, limits.2]
    omega
  have written : (Number.integer n).text = intText n.toInt := rfl
  rw [ofText?, written, intText_eq,
    Numeral.ofText?_digits _ (fun c => isDigit_of_mem_natText) (Numeral.isWhole_natText _),
    Option.bind_some, Numeral.value?_of_lt _ small, Numeral.ofDigits_natText, Numeral.integerValue,
    limits.1]
  by_cases h : n.toInt < 0
  · have abs : (-(n.toInt.natAbs : Int)) = n.toInt := by omega
    have range : 0 < n.toInt.natAbs ∧ n.toInt.natAbs ≤ 2 ^ 63 := by omega
    rw [decide_eq_true h, if_pos rfl, if_pos range, abs, Int64.ofInt_toInt]
  · have abs : (n.toInt.natAbs : Int) = n.toInt := by omega
    have range : n.toInt.natAbs < 2 ^ 63 := by omega
    rw [decide_eq_false h, if_neg Bool.false_ne_true, if_pos range, abs, Int64.ofInt_toInt]

end Json

end BoundSql
