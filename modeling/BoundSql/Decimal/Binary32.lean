import BoundSql.Decimal.Binary64

/-!
# Binary floating point numbers of 32 bits

They occur only as a source of numbers of 64 bits: `widen` keeps the value, since every finite one
is a whole number of units of `2 ^ -149`.
-/

namespace BoundSql

/-- A floating point number in the interchange format of 32 bits. -/
structure Binary32 where
  bits : UInt32
deriving DecidableEq, Inhabited

namespace Binary32

/-- The number of 64 bits with the same value. -/
def widen (x : Binary32) : Binary64 :=
  let negative : Bool := twoPow 31 ≤ x.bits.toNat
  let exponent := x.bits.toNat / twoPow 23 % twoPow 8
  let fraction := x.bits.toNat % twoPow 23
  if exponent = 255 then
    if fraction = 0 then Binary64.infinity negative else Binary64.nan
  else if exponent = 0 then Binary64.nearest negative fraction (twoPow 149)
  else Binary64.nearest negative ((twoPow 23 + fraction) * twoPow (exponent - 1)) (twoPow 149)

end Binary32

end BoundSql
