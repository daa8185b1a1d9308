import BoundSql.Decimal.Integer
import BoundSql.Decimal.Shortest

/-!
# Writing a number in decimal

`Layout.write` writes a finite number with the digits of `Decimal.shortest`.  A `Layout` says how
ties are settled, between which powers of ten the number is written out in full, and whether a
whole number shows a fraction digit; outside that range the number is written with one digit
before the point and an exponent.
-/

namespace BoundSql

/-- The decisions of a decimal notation. -/
structure Layout where
  /-- Which of two equally close decimals is written. -/
  tie : Tie
  /-- The exponents of the leading digit that are written out in full. -/
  inFull : Int → Bool
  /-- Whether a whole number written in full ends in `.0`. -/
  fraction : Bool

namespace Layout

/-- Zeros and the digits of `n`, so that there are at least `width` of them. -/
def padded (width n : Nat) : List Char :=
  List.replicate (width - (natText n).length) '0' ++ natText n

/-- An exponent with its sign. -/
def signedExponent (e : Int) : List Char :=
  (if e < 0 then '-' else '+') :: natText e.natAbs

/-- `d * 10 ^ e` written out in full. -/
def writeInFull (fraction : Bool) (d : Decimal) : List Char :=
  if 0 ≤ d.exponent then
    natText (d.digits * tenPow d.exponent.toNat) ++ if fraction then ['.', '0'] else []
  else
    let places := (-d.exponent).toNat
    natText (d.digits / tenPow places) ++ '.' :: padded places (d.digits % tenPow places)

/-- `d * 10 ^ e` written with one digit before the point; `lead` is the exponent of that digit. -/
def writeWithExponent (lead : Int) (d : Decimal) : List Char :=
  match natText d.digits with
  | [] => []
  | [c] => c :: 'e' :: signedExponent lead
  | c :: r => c :: '.' :: r ++ 'e' :: signedExponent lead

/-- The decimal without the zeros at the end of its digits. -/
def strip : Nat → Decimal → Decimal
  | 0, d => d
  | fuel + 1, d =>
    if d.digits ≠ 0 ∧ d.digits % 10 = 0 then strip fuel ⟨d.digits / 10, d.exponent + 1⟩ else d

/-- The text of a finite number. -/
def write (l : Layout) (x : Binary64) : List Char :=
  let sign := if x.isNegative then ['-'] else []
  if x.isZero then sign ++ writeInFull l.fraction ⟨0, 0⟩
  else
    let d := Decimal.shortest l.tie x
    let d := strip (natText d.digits).length d
    let lead : Int := d.exponent + (natText d.digits).length - 1
    sign ++ if l.inFull lead then writeInFull l.fraction d else writeWithExponent lead d

end Layout

end BoundSql
