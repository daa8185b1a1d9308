/-!
# Hexadecimal digits

Reading a run of hexadecimal digits as a number and writing a number in lower-case digits.
-/

namespace BoundSql.Text

/-- The value of a hexadecimal digit of either case. -/
def hexDigit? (c : Char) : Option Nat :=
  if '0' ≤ c ∧ c ≤ '9' then some (c.toNat - '0'.toNat)
  else if 'a' ≤ c ∧ c ≤ 'f' then some (c.toNat - 'a'.toNat + 10)
  else if 'A' ≤ c ∧ c ≤ 'F' then some (c.toNat - 'A'.toNat + 10)
  else none

/-- The number written in lower-case hexadecimal digits, without leading zeros. -/
def hexText (n : Nat) : List Char := Nat.toDigits 16 n

/-- The number written in lower-case hexadecimal digits, at least four of them. -/
def hexText4 (n : Nat) : List Char :=
  List.replicate (4 - (hexText n).length) '0' ++ hexText n

/-- The character with a given code point, unless the number is no code point or a surrogate. -/
def scalar? (n : Nat) : Option Char :=
  if h : n.isValidChar then some (Char.ofNatAux n h) else none

theorem scalar?_toNat (c : Char) : scalar? c.toNat = some c := by
  have valid : c.toNat.isValidChar := c.valid
  rw [scalar?, dif_pos valid]
  rfl

end BoundSql.Text
