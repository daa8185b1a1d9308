import BoundSql.Decimal.Power

/-!
# Binary floating point numbers of 64 bits

A number is kept as its bit pattern.  Every finite one is a whole number of *units* of `2 ^ -1074`
with a sign, so all arithmetic here is arithmetic on natural numbers: `nearest` gives the number
closest to an exact quotient, with ties to the even significand, and products, quotients and
conversions are `nearest` of the exact result.
-/

namespace BoundSql

/-- A floating point number in the interchange format of 64 bits. -/
structure Binary64 where
  bits : UInt64
deriving DecidableEq, Inhabited

namespace Binary64

/-! ## Fields -/

/-- The bit pattern as a natural number. -/
def word (x : Binary64) : Nat := x.bits.toNat

/-- Whether the sign bit is set. -/
def isNegative (x : Binary64) : Bool := twoPow 63 ≤ x.word

/-- The eleven bits of the biased exponent. -/
def exponentField (x : Binary64) : Nat := x.word / twoPow 52 % twoPow 11

/-- The lowest 52 bits. -/
def fractionField (x : Binary64) : Nat := x.word % twoPow 52

/-- Neither infinite nor not a number. -/
def isFinite (x : Binary64) : Bool := x.exponentField != 2047

/-- Not a number. -/
def isNaN (x : Binary64) : Bool := x.exponentField == 2047 && x.fractionField != 0

/-- Zero of either sign. -/
def isZero (x : Binary64) : Bool := x.word % twoPow 63 == 0

/-- The significand, with the leading bit that normal numbers leave out. -/
def significand (x : Binary64) : Nat :=
  if x.exponentField = 0 then x.fractionField else twoPow 52 + x.fractionField

/-- The significand of a finite number counts `2 ^ scale` units. -/
def scale (x : Binary64) : Nat := x.exponentField - 1

/-- The magnitude of a finite number in units of `2 ^ -1074`. -/
def units (x : Binary64) : Nat := x.significand * twoPow x.scale

/-! ## Rounding -/

/-- The number of units in one. -/
def unitsPerOne : Nat := twoPow 1074

/-- The natural number closest to `num / den`, the even one of two. -/
def divNearestEven (num den : Nat) : Nat :=
  let q := num / den
  let r := 2 * (num % den)
  if r < den ∨ (r = den ∧ q % 2 = 0) then q else q + 1

/-- The word of positive infinity. -/
def infinityWord : Nat := 2047 * twoPow 52

/-- The number with the given sign and the 63 bits of `magnitude`. -/
def ofSign (negative : Bool) (magnitude : Nat) : Binary64 :=
  ⟨UInt64.ofNat (if negative then twoPow 63 + magnitude else magnitude)⟩

/--
The number closest to `num / den`, the one with the even significand of two, with the given sign;
infinite from half a step above the largest finite number.  A significand that rounds up to
`2 ^ 53` carries into the exponent by the layout of the word.
-/
def nearest (negative : Bool) (num den : Nat) : Binary64 :=
  let exact := num * unitsPerOne
  let dropped := (exact / den).log2 - 52
  let magnitude := divNearestEven exact (den * twoPow dropped) + dropped * twoPow 52
  ofSign negative (min magnitude infinityWord)

/-- The number closest to a natural number. -/
def ofNat (n : Nat) : Binary64 := nearest false n 1

/-- The number closest to an integer. -/
def ofInt (n : Int) : Binary64 := nearest (n < 0) n.natAbs 1

/-- The number that stands for all that are not numbers. -/
def nan : Binary64 := ofSign false (infinityWord + twoPow 51)

/-- Infinity of the given sign. -/
def infinity (negative : Bool) : Binary64 := ofSign negative infinityWord

/-! ## Operations -/

/-- The number with the other sign. -/
def neg (x : Binary64) : Binary64 := ofSign (!x.isNegative) (x.word % twoPow 63)

/-- The product of two finite numbers, rounded once. -/
def mul (x y : Binary64) : Binary64 :=
  nearest (x.isNegative != y.isNegative) (x.units * y.units) (unitsPerOne * unitsPerOne)

/-- The quotient of two finite numbers, the second not zero, rounded once. -/
def div (x y : Binary64) : Binary64 :=
  nearest (x.isNegative != y.isNegative) x.units y.units

/-- Equality as numbers: zeros are equal whatever their signs, and nothing equals a NaN. -/
def agrees (x y : Binary64) : Bool :=
  !x.isNaN && !y.isNaN && (x == y || (x.isZero && y.isZero))

end Binary64

end BoundSql
