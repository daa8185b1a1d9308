import BoundSql.Json.Token

/-!
# Splitting JSON text into tokens

The text is read one character at a time.  Between two characters the reader is in a `Mode`:
outside of all tokens, inside a word (a numeral or one of the three names), or inside a string,
possibly in the middle of an escape.  Two escapes that are the halves of a surrogate pair make one
character, and a half on its own is refused.  A word ends at the first character that cannot
belong to it.
-/

namespace BoundSql.Json

/-- What the reader is in the middle of; what has been read of it is kept in reverse. -/
inductive Mode
  | outside
  | word (read : List Char)
  | string (read : List Char)
  /-- After a backslash. -/
  | escape (read : List Char)
  /-- After a backslash and `u`, with the digits so far and the first half of a pair, if any. -/
  | code (read : List Char) (lead : Option Nat) (digits : List Nat)
  /-- After the first half of a pair. -/
  | pair (read : List Char) (lead : Nat)
  /-- After the first half of a pair and a backslash. -/
  | pairEscape (read : List Char) (lead : Nat)

namespace Mode

/-- The characters that can stand in a numeral or a name. -/
def inWord (c : Char) : Bool := c.isAlphanum || c == '-' || c == '+' || c == '.'

/-- The white space of JSON. -/
def isSpace (c : Char) : Bool := c == ' ' || c == '\t' || c == '\n' || c == '\r'

/-- The token that a character is on its own. -/
def single? (c : Char) : Option Token :=
  if c = '[' then some .openArray
  else if c = ']' then some .closeArray
  else if c = '\x7b' then some .openObject
  else if c = '\x7d' then some .closeObject
  else if c = ',' then some .comma
  else if c = ':' then some .colon
  else none

/-- The token that a word is. -/
def word? (s : List Char) : Option Token :=
  if s = "null".toList then some .null
  else if s = "true".toList then some (.bool true)
  else if s = "false".toList then some (.bool false)
  else (Number.ofText? s).map .number

/-- The character that a letter after a backslash stands for. -/
def escape? (c : Char) : Option Char :=
  if c = '"' ∨ c = '\\' ∨ c = '/' then some c
  else if c = 'b' then some '\x08'
  else if c = 'f' then some '\x0c'
  else if c = 'n' then some '\n'
  else if c = 'r' then some '\r'
  else if c = 't' then some '\t'
  else none

/-- The number that four hexadecimal digits denote, the last one first. -/
def ofHexDigits (digits : List Nat) : Nat := digits.foldr (fun d n => n * 16 + d) 0

/-- Whether a number is the first half of a surrogate pair. -/
def isLead (n : Nat) : Bool := 0xD800 ≤ n && n < 0xDC00

/-- Whether a number is the second half of a surrogate pair. -/
def isTrail (n : Nat) : Bool := 0xDC00 ≤ n && n < 0xE000

/-- The mode after an escape by number, with the first half of a pair before it, if any. -/
def afterCode? (read : List Char) (lead : Option Nat) (n : Nat) : Option Mode :=
  match lead with
  | none =>
    if isLead n then some (.pair read n)
    else (Text.scalar? n).map fun c => .string (c :: read)
  | some h =>
    if isTrail n then
      (Text.scalar? (0x10000 + (h - 0xD800) * 0x400 + (n - 0xDC00))).map
        fun c => .string (c :: read)
    else none

/-- What a character does outside of all tokens: the new mode, and the token that it is. -/
def start? (c : Char) : Option (Mode × List Token) :=
  if isSpace c then some (.outside, [])
  else if c = '"' then some (.string [], [])
  else if inWord c then some (.word [c], [])
  else (single? c).map fun t => (.outside, [t])

/-- What a character does in a mode: the new mode, and the tokens that it completes. -/
def step? : Mode → Char → Option (Mode × List Token)
  | .outside, c => start? c
  | .word read, c =>
    if inWord c then some (.word (c :: read), [])
    else do
      let token ← word? read.reverse
      let (mode, tokens) ← start? c
      return (mode, token :: tokens)
  | .string read, c =>
    if c = '"' then some (.outside, [.string read.reverse])
    else if c = '\\' then some (.escape read, [])
    else if c.toNat < 0x20 then none
    else some (.string (c :: read), [])
  | .escape read, c =>
    if c = 'u' then some (.code read none [], [])
    else (escape? c).map fun d => (.string (d :: read), [])
  | .code read lead digits, c => do
    let digits := (← Text.hexDigit? c) :: digits
    if digits.length < 4 then some (.code read lead digits, [])
    else (afterCode? read lead (ofHexDigits digits)).map fun mode => (mode, [])
  | .pair read lead, c => if c = '\\' then some (.pairEscape read lead, []) else none
  | .pairEscape read lead, c => if c = 'u' then some (.code read (some lead) [], []) else none

/-- The tokens that the end of the text completes. -/
def finish? : Mode → Option (List Token)
  | .outside => some []
  | .word read => (word? read.reverse).map fun t => [t]
  | _ => none

/-- The tokens of a text that is read from a mode on. -/
def tokens? : Mode → List Char → Option (List Token)
  | mode, [] => finish? mode
  | mode, c :: s =>
    match step? mode c with
    | none => none
    | some (mode, tokens) => (tokens? mode s).map (tokens ++ ·)

end Mode

/-- The tokens of a text. -/
def tokens? (s : String) : Option (List Token) := Mode.tokens? .outside s.toList

end BoundSql.Json
