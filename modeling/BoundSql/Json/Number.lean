import BoundSql.Decimal.Binary64

/-!
# Numbers in JSON text

A numeral is split by the grammar (`Numeral.ofText?`) and then given a value (`Numeral.value?`).
A numeral without fraction and exponent is an integer when 64 bits with sign hold it, except that
minus zero is the floating point number.  Everything else is a floating point number, found with
one multiplication or division by a power of ten: the significand takes digits as long as 64 bits
hold it, further digits before the point only raise the exponent, and further ones after it are
dropped.  A number too large to be finite has no value.
-/

namespace BoundSql.Json

/-- A number as it is read from JSON text. -/
inductive Number
  | integer (n : Int64)
  | real (x : Binary64)
deriving DecidableEq, Inhabited

/-- The parts of a numeral; digits are given by their values. -/
structure Numeral where
  negative : Bool
  whole : List Nat
  fraction : List Nat
  exponent : Option Int
deriving DecidableEq

namespace Numeral

/-! ## Grammar -/

/-- The values of decimal digits. -/
def digitValues (s : List Char) : List Nat := s.map fun c => c.toNat - '0'.toNat

/-- The number that a sequence of digits denotes. -/
def ofDigits (ds : List Nat) : Nat := ds.foldl (fun n d => n * 10 + d) 0

/-- Splits a text after its leading decimal digits. -/
def spanDigits (s : List Char) : List Char × List Char :=
  (s.takeWhile Char.isDigit, s.dropWhile Char.isDigit)

/-- The digits before the point: at least one, and no zero in front of others. -/
def isWhole : List Char → Bool
  | [] => false
  | [_] => true
  | c :: _ => c != '0'

/-- The digits after a point, at least one, if there is a point, and what follows. -/
def fractionOf? : List Char → Option (List Nat × List Char)
  | '.' :: s =>
    let (digits, rest) := spanDigits s
    if digits.isEmpty then none else some (digitValues digits, rest)
  | s => some ([], s)

/-- The exponent after `e` or `E`, which has at least one digit and ends the numeral, if any. -/
def exponentOf? : List Char → Option (Option Int)
  | [] => some none
  | c :: s =>
    if c = 'e' ∨ c = 'E' then
      let (negative, s) :=
        match s with
        | '-' :: s => (true, s)
        | '+' :: s => (false, s)
        | s => (false, s)
      let (digits, rest) := spanDigits s
      if digits.isEmpty || !rest.isEmpty then none
      else
        let n : Int := ofDigits (digitValues digits)
        some (some (if negative then -n else n))
    else none

/-- The numeral that a whole text is. -/
def ofText? (s : List Char) : Option Numeral :=
  let (negative, s) :=
    match s with
    | '-' :: s => (true, s)
    | s => (false, s)
  let (whole, rest) := spanDigits s
  if isWhole whole then do
    let (fraction, rest) ← fractionOf? rest
    let exponent ← exponentOf? rest
    return { negative, whole := digitValues whole, fraction, exponent }
  else none

/-! ## Value -/

/-- The values that 64 bits hold. -/
def wordLimit : Nat := twoPow 64

/-- Takes digits before the point while 64 bits hold the significand, and counts the others. -/
def takeWhole : Nat → List Nat → Nat × Int
  | n, [] => (n, 0)
  | n, d :: ds => if n * 10 + d < wordLimit then takeWhole (n * 10 + d) ds else (n, ds.length + 1)

/-- Takes digits after the point while 64 bits hold the significand; `e` is the exponent so far. -/
def takeFraction : Nat → Int → List Nat → Nat × Int
  | n, e, [] => (n, e)
  | n, e, d :: ds =>
    if n * 10 + d < wordLimit then takeFraction (n * 10 + d) (e - 1) ds else (n, e)

/-- The floating point number closest to a power of ten. -/
def powerOfTen (n : Nat) : Binary64 := .ofNat (tenPow n)

/-- A number divided by `10 ^ 308` so many times, until it is zero, and then by `10 ^ n`. -/
def shrinkBy (n : Nat) : Nat → Binary64 → Binary64
  | 0, x => x.div (powerOfTen n)
  | steps + 1, x => if x.isZero then x else shrinkBy n steps (x.div (powerOfTen 308))

/-- A number divided by `10 ^ n`, in steps that stay in the range of powers of ten. -/
def shrink (x : Binary64) (n : Nat) : Binary64 :=
  let steps := (n - 1) / 308
  shrinkBy (n - 308 * steps) steps x

/-- The number `n * 10 ^ e`, unless it is too large. -/
def scaled? (n : Nat) (e : Int) : Option Binary64 :=
  if e < 0 then some (shrink (.ofNat n) e.natAbs)
  else if n = 0 then some (.ofNat 0)
  else if e ≤ 308 then
    let x := (Binary64.ofNat n).mul (powerOfTen e.toNat)
    if x.isFinite then some x else none
  else none

/-- A number with a sign in front. -/
def signed (negative : Bool) (x : Binary64) : Binary64 := if negative then x.neg else x

/-- The value of an integer of at most 64 bits without sign. -/
def integerValue (negative : Bool) (n : Nat) : Number :=
  if negative then
    if 0 < n ∧ n ≤ twoPow 63 then .integer (.ofInt (-n)) else .real (Binary64.ofNat n).neg
  else if n < twoPow 63 then .integer (.ofInt n)
  else .real (.ofNat n)

/-- The value of a numeral, unless it is too large. -/
def value? (m : Numeral) : Option Number :=
  let (n, e) := takeWhole 0 m.whole
  if m.fraction.isEmpty && m.exponent.isNone && e == 0 then some (integerValue m.negative n)
  else
    let (n, e) := takeFraction n e m.fraction
    (scaled? n (e + m.exponent.getD 0)).map fun x => .real (signed m.negative x)

end Numeral

/-- The number that a whole text denotes. -/
def Number.ofText? (s : List Char) : Option Number := (Numeral.ofText? s).bind Numeral.value?

end BoundSql.Json
