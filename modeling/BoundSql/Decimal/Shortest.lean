import BoundSql.Decimal.Binary64

/-!
# The shortest decimal that reads back

Between its two neighbours a floating point number owns an interval of reals that round to it,
ends included exactly when its significand is even.  `shortest` looks for the coarsest grid of
multiples of a power of ten that has a point in this interval, and takes the point closest to the
number.  A grid with a point in the interval has one among the two neighbours of the number, so
only these are tried.  Everything is compared in whole numbers of quarter steps.
-/

namespace BoundSql

/-- The number `digits * 10 ^ exponent`. -/
structure Decimal where
  digits : Nat
  exponent : Int
deriving DecidableEq, Inhabited

/-- Which of two equally close decimals is taken. -/
inductive Tie
  /-- The one with the even last digit. -/
  | even
  /-- The one farther from zero. -/
  | away
deriving DecidableEq

namespace Decimal

/-- The reals that round to a positive number, which is `center / one`: from `low` to `high`. -/
structure Interval where
  low : Nat
  center : Nat
  high : Nat
  one : Nat
  closed : Bool

/-- The interval of a finite number, leaving its sign aside. -/
def intervalOf (x : Binary64) : Interval :=
  let step := twoPow x.scale
  let below := if x.significand = twoPow 52 ∧ 0 < x.scale then step else 2 * step
  { low := 4 * x.units - below
    center := 4 * x.units
    high := 4 * x.units + 2 * step
    one := 4 * Binary64.unitsPerOne
    closed := x.significand % 2 = 0 }

/-- The same interval counted in multiples of `10 ^ e`. -/
def Interval.onGrid (i : Interval) (e : Int) : Interval :=
  if 0 ≤ e then { i with one := i.one * tenPow e.toNat }
  else
    let f := tenPow (-e).toNat
    { i with low := i.low * f, center := i.center * f, high := i.high * f }

/-- Whether the natural number `k` lies in the interval. -/
def Interval.holds (i : Interval) (k : Nat) : Bool :=
  if i.closed then i.low ≤ k * i.one && k * i.one ≤ i.high
  else i.low < k * i.one && k * i.one < i.high

/-- The natural number in the interval that is closest to its center, if there is one. -/
def Interval.closest? (tie : Tie) (i : Interval) : Option Nat :=
  let k := i.center / i.one
  match i.holds k, i.holds (k + 1) with
  | true, false => some k
  | false, true => some (k + 1)
  | false, false => none
  | true, true =>
    let r := 2 * (i.center % i.one)
    let down : Bool := r < i.one || (r == i.one && tie = .even && k % 2 == 0)
    some (if down then k else k + 1)

/-- The closest point of the first grid that has one, from `10 ^ e` on through `fuel` finer ones. -/
def search (tie : Tie) (i : Interval) : Nat → Int → Decimal
  | 0, e => ⟨0, e⟩
  | fuel + 1, e =>
    match (i.onGrid e).closest? tie with
    | some k => ⟨k, e⟩
    | none => search tie i fuel (e - 1)

/--
The shortest decimal that rounds to the finite number, which is not zero, leaving its sign aside.
The grids run from `10 ^ 308`, the largest below the largest number, to one finer than any step.
-/
def shortest (tie : Tie) (x : Binary64) : Decimal := search tie (intervalOf x) 700 308

end Decimal

end BoundSql
