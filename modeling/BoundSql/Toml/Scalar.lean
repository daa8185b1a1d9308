import BoundSql.Text.Hex
import BoundSql.Toml.DateTime
import BoundSql.Toml.Document

/-!
# Bare values in TOML

A value that is neither a string nor a collection is a truth value, a number, or a date or time,
told apart by the grammar of its text.  Digits can be separated by single underscores; a decimal
number has no zero in front of other digits.

Text can have the form of an integer and denote none: the mark of a base without digits, as in `0x`,
or a decimal integer with other characters behind an underscore, as in `1_0z`.  It stands in a
document as an integer without a number.
-/

namespace BoundSql.Toml.Scalar

/-- A sign, if there is one: whether it is a minus, and what follows. -/
def sign : List Char → Bool × List Char
  | '-' :: s => (true, s)
  | '+' :: s => (false, s)
  | s => (false, s)

/-- The number, or its opposite if `negative`. -/
def signed (negative : Bool) (n : Nat) : Int := if negative then -n else n

/-- The digits of a text of digits in which single underscores can stand between two digits. -/
def digits? (p : Char → Bool) : List Char → Option (List Char)
  | [] => none
  | [c] => if p c then some [c] else none
  | c :: '_' :: s => if p c then (c :: ·) <$> digits? p s else none
  | c :: s => if p c then (c :: ·) <$> digits? p s else none

/-- The digits of a decimal number without superfluous zeros. -/
def decimalDigits? (s : List Char) : Option (List Char) :=
  (digits? Char.isDigit s).filter fun ds => ds.length == 1 || ds.head? != some '0'

/-- The number that digits denote in a base. -/
def ofDigits (base : Nat) (s : List Char) : Nat :=
  s.foldl (fun n c => n * base + (Text.hexDigit? c).getD 0) 0

/-- Whether a character is a digit in the given base of at most 16. -/
def isDigitIn (base : Nat) (c : Char) : Bool := (Text.hexDigit? c).any (· < base)

/-- The integer of the text behind the mark of a base, which denotes none without digits. -/
def ofBase? (base : Nat) (s : List Char) : Option (Option Int) :=
  if s.isEmpty then some none
  else (digits? (isDigitIn base) s).map fun ds => some (ofDigits base ds)

/-- Whether a character begins an exponent. -/
def beginsExponent (c : Char) : Bool := c == 'e' || c == 'E'

/-- Whether a character ends the digits in front of the point and of the exponent. -/
def endsWhole (c : Char) : Bool := c == '.' || beginsExponent c

/-- Whether each underscore of a text is between two digits of some base, where `behind` tells
whether the text stands behind a digit. -/
def isSeparated (behind : Bool) : List Char → Bool
  | [] => true
  | ['_'] => false
  | '_' :: c :: s => behind && isDigitIn 16 c && isSeparated true s
  | c :: s => isSeparated (isDigitIn 16 c) s

/-- Whether a text without a sign has the form of a decimal integer: digits, and from the first
underscore on any text without point and exponent that the underscores separate. -/
def isDecimal (s : List Char) : Bool :=
  !s.isEmpty && (s.dropWhile Char.isDigit).head?.all (· == '_') && !s.any endsWhole &&
    isSeparated false s && (s.head? != some '0' || s.length == 1)

/-- The integer of a text that has the form of one, unless it denotes none. -/
def integer? : List Char → Option (Option Int)
  | '0' :: 'x' :: s => ofBase? 16 s
  | '0' :: 'o' :: s => ofBase? 8 s
  | '0' :: 'b' :: s => ofBase? 2 s
  | s =>
    let (negative, s) := sign s
    if isDecimal s then
      some ((decimalDigits? s).map fun ds => signed negative (ofDigits 10 ds))
    else none

/-- The number `n * 10 ^ e`, unless it is too large; powers far out of range are not computed. -/
def float (negative : Bool) (n : Nat) (e : Int) : Option Binary64 :=
  let lead := (Nat.toDigits 10 n).length + e
  let x :=
    if n = 0 ∨ lead < -400 then Binary64.nearest negative 0 1
    else if 400 < lead then Binary64.infinity negative
    else if 0 ≤ e then Binary64.nearest negative (n * tenPow e.toNat) 1
    else Binary64.nearest negative n (tenPow e.natAbs)
  if x.isFinite then some x else none

/-- The exponent after `e` or `E`, if there is one. -/
def exponent? : List Char → Option (Option Int)
  | [] => some none
  | c :: s =>
    if beginsExponent c then
      let (negative, s) := sign s
      (digits? Char.isDigit s).map fun ds => some (signed negative (ofDigits 10 ds))
    else none

/-- The digits after the point, if there is one, and what follows. -/
def fraction? : List Char → Option (Option (List Char) × List Char)
  | '.' :: s =>
    (digits? Char.isDigit (s.takeWhile fun c => !beginsExponent c)).map fun ds =>
      (some ds, s.dropWhile fun c => !beginsExponent c)
  | s => some (none, s)

/-- The value of the floating point number that a text is. -/
def float? (s : List Char) : Option Toml := do
  let (negative, s) := sign s
  if s = "inf".toList then some (.float (some (Binary64.infinity negative)))
  else if s = "nan".toList then some (.float (some Binary64.nan))
  else
    let whole ← decimalDigits? (s.takeWhile fun c => !endsWhole c)
    let (fraction, rest) ← fraction? (s.dropWhile fun c => !endsWhole c)
    let exponent ← exponent? rest
    if fraction.isNone && exponent.isNone then none
    else
      let decimals := fraction.getD []
      some (.float (float negative (ofDigits 10 (whole ++ decimals))
        (exponent.getD 0 - decimals.length)))

/-- The value that a bare text is. -/
def ofText? (s : List Char) : Option Toml :=
  if s = "true".toList then some (.bool true)
  else if s = "false".toList then some (.bool false)
  else if DateTime.isDateTime s then some (.dateTime (.ofList s))
  else
    match integer? s with
    | some n => some (.integer n)
    | none => float? s

end BoundSql.Toml.Scalar
