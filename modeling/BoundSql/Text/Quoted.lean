import BoundSql.Text.GraphemeExtend
import BoundSql.Text.Hex
import BoundSql.Text.Printable

/-!
# Quoted text for messages

`quoted` shows a text between double quotes so that every character of it can be seen: what has no
shape of its own, or would attach to its neighbour, is written by its code point.
-/

namespace BoundSql.Text

/-- The halfwidth sound marks of Katakana: they extend a grapheme, but stand beside it. -/
def soundMarks : List Nat := [0xFF9E, 0xFF9F]

/-- Whether a character is drawn onto the character before it. -/
def attaches (c : Char) : Bool := isGraphemeExtend c && !soundMarks.contains c.toNat

/-- The spelling of one character between the quotes. -/
def quotedChar (c : Char) : List Char :=
  if c = '\x00' then ['\\', '0']
  else if c = '\t' then ['\\', 't']
  else if c = '\n' then ['\\', 'n']
  else if c = '\r' then ['\\', 'r']
  else if c = '"' ∨ c = '\\' then ['\\', c]
  else if attaches c || !isPrintable c then
    ['\\', 'u', '\x7b'] ++ hexText c.toNat ++ ['\x7d']
  else [c]

/-- The text between double quotes, with what cannot be seen written by code point. -/
def quoted (s : List Char) : List Char := '"' :: s.flatMap quotedChar ++ ['"']

end BoundSql.Text
