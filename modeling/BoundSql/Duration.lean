import BoundSql.Decimal.Integer
import BoundSql.Decimal.Power

/-!
# Lengths of time

A `Duration` counts nanoseconds.  Its text uses the largest unit of which it holds at least one,
with what remains as a decimal fraction without zeros at its end.
-/

namespace BoundSql

/-- A length of time in whole nanoseconds. -/
structure Duration where
  nanoseconds : Nat
deriving DecidableEq, Inhabited

namespace Duration

/-- A duration of whole seconds and further nanoseconds. -/
def ofSeconds (seconds nanoseconds : Nat) : Duration :=
  ⟨seconds * 1000000000 + nanoseconds⟩

/-- A duration of whole milliseconds. -/
def ofMilliseconds (n : Nat) : Duration := ⟨n * 1000000⟩

/-- The whole milliseconds in a duration. -/
def toMilliseconds (d : Duration) : Nat := d.nanoseconds / 1000000

instance : LT Duration := ⟨fun a b => a.nanoseconds < b.nanoseconds⟩

instance (a b : Duration) : Decidable (a < b) :=
  inferInstanceAs (Decidable (a.nanoseconds < b.nanoseconds))

/-- The digits after the point of `n / 10 ^ places`, which is below one, without final zeros. -/
def fractionDigits (places n : Nat) : List Char :=
  let digits := natText n
  let all := List.replicate (places - digits.length) '0' ++ digits
  (all.reverse.dropWhile (· == '0')).reverse

/-- `n / 10 ^ places` of a unit. -/
def inUnit (n places : Nat) (unit : List Char) : List Char :=
  let fraction := fractionDigits places (n % tenPow places)
  natText (n / tenPow places) ++ (if fraction.isEmpty then [] else '.' :: fraction) ++ unit

/-- The text of a duration. -/
def display (d : Duration) : String :=
  let n := d.nanoseconds
  .ofList <|
    if 1000000000 ≤ n then inUnit n 9 ['s']
    else if 1000000 ≤ n then inUnit n 6 ['m', 's']
    else if 1000 ≤ n then inUnit n 3 ['µ', 's']
    else inUnit n 0 ['n', 's']

end Duration

end BoundSql
