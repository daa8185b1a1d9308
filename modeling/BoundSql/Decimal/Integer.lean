/-!
# Integers in decimal

`natText` and `intText` write whole numbers in base ten, the latter with a minus sign before the
digits of a negative one and nothing before those of any other.
-/

namespace BoundSql

/-- The digits of a natural number in base ten. -/
def natText (n : Nat) : List Char := Nat.toDigits 10 n

/-- The digits of an integer in base ten, with a minus sign when it is negative. -/
def intText (n : Int) : List Char := if n < 0 then '-' :: natText n.natAbs else natText n.natAbs

theorem ofDigitChars_natText (n : Nat) : Nat.ofDigitChars 10 (natText n) 0 = n :=
  Nat.ofDigitChars_toDigits (by decide) (by decide)

end BoundSql
