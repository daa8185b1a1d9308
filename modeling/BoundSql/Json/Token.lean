import BoundSql.Decimal.Integer
import BoundSql.Decimal.Layout
import BoundSql.Json.Number
import BoundSql.Text.Hex

/-!
# Tokens of JSON text

JSON text is a sequence of tokens with white space between them.  `Token.text` is the text that is
written for a token.  A floating point number is written with its shortest digits, in full from
`1e-5` on and below `1e16` and always with a digit after the point; one that is not finite is
written as null, which JSON has instead.
-/

namespace BoundSql.Json

/-- The smallest units of JSON text. -/
inductive Token
  | openArray
  | closeArray
  | openObject
  | closeObject
  | comma
  | colon
  | null
  | bool (b : Bool)
  | number (n : Number)
  | string (s : List Char)
deriving DecidableEq

/-- Numbers are written in full between `1e-5` and `1e16` and show a digit after the point. -/
def numberLayout : Layout where
  tie := .even
  inFull e := -5 ≤ e && e < 16
  fraction := true

/-- The text of a number. -/
def Number.text : Number → List Char
  | .integer n => intText n.toInt
  | .real x => if x.isFinite then numberLayout.write x else "null".toList

/-- The spelling of a character inside a string. -/
def escaped (c : Char) : List Char :=
  if c = '"' then ['\\', '"']
  else if c = '\\' then ['\\', '\\']
  else if c = '\x08' then ['\\', 'b']
  else if c = '\t' then ['\\', 't']
  else if c = '\n' then ['\\', 'n']
  else if c = '\x0c' then ['\\', 'f']
  else if c = '\r' then ['\\', 'r']
  else if c.toNat < 0x20 then ['\\', 'u'] ++ Text.hexText4 c.toNat
  else [c]

/-- The text of a token. -/
def Token.text : Token → List Char
  | .openArray => ['[']
  | .closeArray => [']']
  | .openObject => ['\x7b']
  | .closeObject => ['\x7d']
  | .comma => [',']
  | .colon => [':']
  | .null => "null".toList
  | .bool b => if b then "true".toList else "false".toList
  | .number n => n.text
  | .string s => '"' :: s.flatMap escaped ++ ['"']

end BoundSql.Json
