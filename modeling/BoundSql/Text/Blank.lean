/-!
# Blank characters

`isBlank` is the Unicode property `White_Space`.  A text can be stripped of blanks at both ends
(`trim`) and asked for its first maximal run of other characters (`firstWord`).  A text is blank
when trimming leaves nothing of it, that is, when all of its characters are blank.
-/

namespace BoundSql.Text

/-- The code points with the property `White_Space`. -/
def blankPoints : List Nat :=
  [0x09, 0x0A, 0x0B, 0x0C, 0x0D, 0x20, 0x85, 0xA0, 0x1680, 0x2000, 0x2001, 0x2002, 0x2003, 0x2004,
   0x2005, 0x2006, 0x2007, 0x2008, 0x2009, 0x200A, 0x2028, 0x2029, 0x202F, 0x205F, 0x3000]

/-- Whether a character is white space. -/
def isBlank (c : Char) : Bool := blankPoints.contains c.toNat

/-- The text without the blanks at its two ends. -/
def trim (s : List Char) : List Char :=
  ((s.dropWhile isBlank).reverse.dropWhile isBlank).reverse

/-- The first maximal run of characters that are not blank; empty when there is none. -/
def firstWord (s : List Char) : List Char := (s.dropWhile isBlank).takeWhile fun c => !isBlank c

end BoundSql.Text
