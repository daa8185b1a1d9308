import BoundSql.Row.Column
import BoundSql.Value.Conversion
import Mathlib.Tactic.SplitIfs

/-!
# Equality in SQL

A condition of a statement is a comparison that the database makes.  It compares texts as texts and
numbers, integers or not, by what they are worth (`Value.numeric?`); null equals nothing, and a text
equals no number (`Value.equals`).  Reading a column never converts either, so comparing it with a
text is reading the text (`Value.equals_text_iff`).  A truth value is stored as a number, and
comparing a number with false is reading it as a truth value that is false
(`Value.equals_false_iff`), whether the number is an integer or zero of either sign.
-/

namespace BoundSql

/-! ## What a number is worth -/

/-- A number of the database: so many units of `2 ^ -1074`, or infinite with a sign. -/
inductive Numeric
  | finite (units : Int)
  | infinite (negative : Bool)
deriving DecidableEq

namespace Numeric

/-- What an integer is worth. -/
def ofInt (n : Int) : Numeric := .finite (n * Binary64.unitsPerOne)

theorem ofInt_zero : ofInt 0 = .finite 0 := congrArg finite (Int.zero_mul _)

theorem ofInt_eq_zero_iff (n : Int) : ofInt n = .finite 0 ↔ n = 0 := by
  have one : (Binary64.unitsPerOne : Int) ≠ 0 := by
    have positive := twoPow_pos 1074
    unfold Binary64.unitsPerOne
    omega
  rw [ofInt, finite.injEq, Int.mul_eq_zero, or_iff_left one]

end Numeric

namespace Binary64

/-- What a floating point number is worth, if it is a number. -/
def numeric? (x : Binary64) : Option Numeric :=
  if x.isNaN then none
  else if x.isFinite then some (.finite (if x.isNegative then -x.units else x.units))
  else some (.infinite x.isNegative)

/-- The sign aside, the fields of a word are zero together with the word. -/
theorem isZero_iff (x : Binary64) :
    x.isZero = true ↔ x.exponentField = 0 ∧ x.fractionField = 0 := by
  have width : twoPow 63 = twoPow 52 * twoPow 11 := rfl
  have split : x.word % twoPow 63 = x.fractionField + twoPow 52 * x.exponentField := by
    rw [width]
    exact Nat.mod_mul
  have positive := twoPow_pos 52
  rw [isZero, beq_iff_eq, split, Nat.add_eq_zero_iff, Nat.mul_eq_zero]
  constructor
  · rintro ⟨fraction, leading | exponent⟩
    · omega
    · exact ⟨exponent, fraction⟩
  · rintro ⟨exponent, fraction⟩
    exact ⟨fraction, .inr exponent⟩

theorem units_eq_zero_iff (x : Binary64) : x.units = 0 ↔ x.isZero = true := by
  have scaled := twoPow_pos x.scale
  have leading := twoPow_pos 52
  rw [isZero_iff, units, Nat.mul_eq_zero, or_iff_left (by omega), significand]
  split_ifs with h
  · simp [h]
  · constructor
    · intro zero
      omega
    · rintro ⟨exponent, -⟩
      exact absurd exponent h

/-- Zeros of either sign are worth nothing, and so is no other number. -/
theorem numeric?_eq_zero_iff (x : Binary64) :
    x.numeric? = some (.finite 0) ↔ x.isZero = true := by
  unfold numeric?
  split_ifs with hn hf negative
  · constructor
    · nofun
    · intro zero
      have exponent := ((isZero_iff x).1 zero).1
      simp [isNaN, exponent] at hn
  · simp [← units_eq_zero_iff]
  · simp [← units_eq_zero_iff]
  · constructor
    · nofun
    · intro zero
      have exponent := ((isZero_iff x).1 zero).1
      simp [isFinite, exponent] at hf

end Binary64

/-! ## Comparing values -/

namespace Value

/-- What a value is worth, if it is a number. -/
def numeric? : Value → Option Numeric
  | .integer n => some (.ofInt n.toInt)
  | .real x => x.numeric?
  | _ => none

/-- Whether the database finds the values equal. -/
def equals : Value → Value → Bool
  | .text s, .text t => s == t
  | v, w => v.numeric?.any fun m => some m == w.numeric?

theorem equals_text_iff (v : Value) (s : String) :
    v.equals (toValue s) = true ↔ v.toText = .ok s := by
  have bound : (toValue s : Value) = .text s := rfl
  rw [bound]
  cases v <;> simp [equals, numeric?, toText, text?]

/-- A number equals the integer zero when it is worth nothing. -/
theorem equals_zero_iff (v : Value) :
    v.equals (.integer 0) = true ↔ v.numeric? = some (.finite 0) := by
  have zero : (integer 0).numeric? = some (.finite 0) := congrArg some Numeric.ofInt_zero
  have number : v.equals (.integer 0) =
      v.numeric?.any fun m => some m == (integer 0).numeric? := by
    cases v <;> rfl
  rw [number, zero]
  cases v.numeric? <;> simp

theorem equals_false_iff (v : Value) :
    v.equals (toValue false) = true ↔ v.toBool = .ok false := by
  have bound : (toValue false : Value) = .integer 0 := rfl
  rw [bound, equals_zero_iff]
  cases v with
  | null => simp [numeric?, toBool]
  | text s => simp [numeric?, toBool]
  | integer n =>
    have zero : n.toInt = 0 ↔ n = 0 := Int64.toInt_inj (y := 0)
    simp [numeric?, toBool, Numeric.ofInt_eq_zero_iff, zero]
  | real x => simp [numeric?, toBool, x.numeric?_eq_zero_iff]

end Value

end BoundSql
