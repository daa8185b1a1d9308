import BoundSql.Text.Hex

/-!
# Splitting TOML text into tokens

The text is read one character at a time, as a machine whose states are the `Mode`s: outside of
all strings, in white space, in a bare word, in a comment, or somewhere in a string.  Comments
leave no token.  A line ends with a line feed, which a carriage return may precede; carriage
returns stand nowhere else.  White space is kept as a token, since it separates what would
otherwise be one; whether it is exactly one blank matters inside a date with a time.
-/

namespace BoundSql.Toml

/-- The smallest units of TOML text. -/
inductive Token
  | dot
  | equals
  | comma
  | openBracket
  | closeBracket
  | openBrace
  | closeBrace
  | newline
  /-- Blanks and tabs; `single` when it is one blank. -/
  | space (single : Bool)
  /-- A run of other characters outside of strings. -/
  | bare (s : List Char)
  | string (s : List Char) (multiline : Bool)
deriving DecidableEq

/-- How a string is quoted: between double or single quotes, once or three times. -/
structure Quotes where
  mark : Char
  multiline : Bool
deriving DecidableEq

/-- What the reader is in the middle of; what has been read of it is kept in reverse. -/
inductive Mode
  | outside
  | space (single : Bool)
  | bare (read : List Char)
  | comment
  /-- After a carriage return outside of strings. -/
  | lineBreak
  /-- After the first quote of a string, or the second. -/
  | opening (mark : Char) (second : Bool)
  /-- At the start of a string over several lines, and after a carriage return there. -/
  | firstLine (mark : Char) (carriage : Bool)
  | text (q : Quotes) (read : List Char)
  /-- After a carriage return in a string over several lines. -/
  | textBreak (q : Quotes) (read : List Char)
  /-- After some quotes in a row in a string over several lines. -/
  | closing (q : Quotes) (read : List Char) (count : Nat)
  /-- After a backslash. -/
  | escape (q : Quotes) (read : List Char)
  /-- In an escape by number, with so many digits to come. -/
  | code (q : Quotes) (read : List Char) (due : Nat) (value : Nat)
  /-- In the white space after a backslash at the end of a line, which may be still to come. -/
  | joining (q : Quotes) (read : List Char) (ended : Bool)
  /-- After a carriage return in such white space. -/
  | joiningBreak (q : Quotes) (read : List Char)

namespace Mode

/-- Whether a character may stand in comments and strings as it is. -/
def isPlain (c : Char) : Bool := c == '\t' || (0x20 ≤ c.toNat && c.toNat != 0x7F)

/-- The token that a character is on its own. -/
def single? (c : Char) : Option Token :=
  if c = '.' then some .dot
  else if c = '=' then some .equals
  else if c = ',' then some .comma
  else if c = '[' then some .openBracket
  else if c = ']' then some .closeBracket
  else if c = '\x7b' then some .openBrace
  else if c = '\x7d' then some .closeBrace
  else if c = '\n' then some .newline
  else none

/-- What a character does outside: the new mode, and the token that it is. -/
def start (c : Char) : Mode × List Token :=
  match single? c with
  | some t => (.outside, [t])
  | none =>
    if c = ' ' then (.space true, [])
    else if c = '\t' then (.space false, [])
    else if c = '\r' then (.lineBreak, [])
    else if c = '#' then (.comment, [])
    else if c = '"' ∨ c = '\'' then (.opening c false, [])
    else (.bare [c], [])

/-- Whether a character belongs to a bare word that has begun; quotes in it begin no string. -/
def inBare (c : Char) : Bool :=
  match start c with
  | (.bare _, _) => true
  | (.opening .., _) => true
  | _ => false

/-- What a character does outside after a token has been completed. -/
def startAfter (t : Token) (c : Char) : Mode × List Token :=
  let (mode, tokens) := start c
  (mode, t :: tokens)

/-- The token of a string whose content has been read. -/
def stringToken (q : Quotes) (read : List Char) : Token := .string read.reverse q.multiline

/-- What a character does in a string. -/
def inText? (q : Quotes) (read : List Char) (c : Char) : Option (Mode × List Token) :=
  if c = q.mark then
    if q.multiline then some (.closing q read 1, []) else some (.outside, [stringToken q read])
  else if c = '\\' ∧ q.mark = '"' then some (.escape q read, [])
  else if c = '\n' then if q.multiline then some (.text q (c :: read), []) else none
  else if c = '\r' then if q.multiline then some (.textBreak q read, []) else none
  else if isPlain c then some (.text q (c :: read), [])
  else none

/-- The character that a letter after a backslash stands for. -/
def escape? (c : Char) : Option Char :=
  if c = '"' ∨ c = '\\' then some c
  else if c = 'b' then some '\x08'
  else if c = 't' then some '\t'
  else if c = 'n' then some '\n'
  else if c = 'f' then some '\x0c'
  else if c = 'r' then some '\r'
  else if c = 'e' then some '\x1b'
  else none

/-- The number of digits of an escape by number. -/
def codeLength? (c : Char) : Option Nat :=
  if c = 'x' then some 2 else if c = 'u' then some 4 else if c = 'U' then some 8 else none

/-- What a character does after a backslash. -/
def inEscape? (q : Quotes) (read : List Char) (c : Char) : Option Mode :=
  match escape? c, codeLength? c with
  | some d, _ => some (.text q (d :: read))
  | none, some n => some (.code q read n 0)
  | none, none =>
    if !q.multiline then none
    else if c = ' ' ∨ c = '\t' then some (.joining q read false)
    else if c = '\n' then some (.joining q read true)
    else if c = '\r' then some (.joiningBreak q read)
    else none

/-- What a character does in a mode: the new mode, and the tokens that it completes. -/
def step? : Mode → Char → Option (Mode × List Token)
  | .outside, c => some (start c)
  | .space one, c =>
    if c = ' ' ∨ c = '\t' then some (.space false, []) else some (startAfter (.space one) c)
  | .bare read, c =>
    if inBare c then some (.bare (c :: read), []) else some (startAfter (.bare read.reverse) c)
  | .comment, c =>
    if c = '\n' ∨ c = '\r' then some (start c)
    else if isPlain c then some (.comment, [])
    else none
  | .lineBreak, c => if c = '\n' then some (.outside, [.newline]) else none
  | .opening mark second, c =>
    if c = mark then
      if second then some (.firstLine mark false, []) else some (.opening mark true, [])
    else if second then some (startAfter (.string [] false) c)
    else inText? ⟨mark, false⟩ [] c
  | .firstLine mark carriage, c =>
    let q : Quotes := ⟨mark, true⟩
    if c = '\n' then some (.text q [], [])
    else if carriage then none
    else if c = '\r' then some (.firstLine mark true, [])
    else inText? q [] c
  | .text q read, c => inText? q read c
  | .textBreak q read, c =>
    if c = '\n' then some (.text q ('\n' :: '\r' :: read), []) else none
  | .closing q read count, c =>
    if c = q.mark then
      if count < 5 then some (.closing q read (count + 1), [])
      else some (.opening c false, [stringToken q (c :: c :: read)])
    else if count < 3 then inText? q (List.replicate count q.mark ++ read) c
    else some (startAfter (stringToken q (List.replicate (count - 3) q.mark ++ read)) c)
  | .escape q read, c => (inEscape? q read c).map fun mode => (mode, [])
  | .code q read due value, c => do
    let value := value * 16 + (← Text.hexDigit? c)
    if 1 < due then some (.code q read (due - 1) value, [])
    else (Text.scalar? value).map fun d => (.text q (d :: read), [])
  | .joining q read ended, c =>
    if c = ' ' ∨ c = '\t' then some (.joining q read ended, [])
    else if c = '\n' then some (.joining q read true, [])
    else if c = '\r' then some (.joiningBreak q read, [])
    else if ended then inText? q read c
    else none
  | .joiningBreak q read, c => if c = '\n' then some (.joining q read true, []) else none

/-- The tokens that the end of the text completes. -/
def finish? : Mode → Option (List Token)
  | .outside => some []
  | .comment => some []
  | .space one => some [.space one]
  | .bare read => some [.bare read.reverse]
  | .opening _ true => some [.string [] false]
  | .closing q read count =>
    if count < 3 then none
    else some [stringToken q (List.replicate (count - 3) q.mark ++ read)]
  | _ => none

/-- The tokens of a text that is read from a mode on. -/
def tokens? : Mode → List Char → Option (List Token)
  | mode, [] => finish? mode
  | mode, c :: s =>
    match step? mode c with
    | none => none
    | some (mode, tokens) => (tokens? mode s).map (tokens ++ ·)

end Mode

/-- The text without a byte order mark in front. -/
def dropMark : List Char → List Char
  | [] => []
  | c :: s => if c = '\uFEFF' then s else c :: s

/-- The tokens of a text. -/
def tokens? (s : String) : Option (List Token) := Mode.tokens? .outside (dropMark s.toList)

end BoundSql.Toml
