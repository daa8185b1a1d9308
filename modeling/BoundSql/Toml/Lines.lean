import BoundSql.Toml.Lexer
import BoundSql.Toml.Scalar

/-!
# Reading the lines of a TOML document

The tokens of a text are read one at a time, with a stack of what a value is a part of: the pair
of its line, an array, a member of an inline table.  Inside arrays and inline tables lines can
break between items, keys, equals signs, values and commas, but not within a dotted key, and a
comma can follow the last part.  Arrays and inline tables can be nested 80 deep, and a key has at
most 80 parts.
-/

namespace BoundSql.Toml

/-- What a value is a part of. -/
inductive Frame
  /-- The value of a line. -/
  | pair (path : List String)
  /-- An item of an array, after the given ones in reverse. -/
  | item (items : List Toml)
  /-- The value of a member of an inline table that has the given ones. -/
  | member (members : Members) (path : List String)

/-- What a key is read for. -/
inductive Goal
  | pair
  | header
  | arrayHeader
  /-- A member of an inline table that has the given ones. -/
  | member (members : Members) (stack : List Frame)

/-- What has been read; the parts of a key are kept in reverse. -/
inductive Reader
  /-- At the start of a line. -/
  | line
  /-- After a bracket at the start of a line. -/
  | bracket
  /-- Only the end of the line can follow. -/
  | lineEnd
  /-- A part of a key is due. -/
  | key (goal : Goal) (parts : List String)
  /-- After a part of a key. -/
  | keyEnd (goal : Goal) (parts : List String)
  /-- After the key of a member of an inline table and the end of its line. -/
  | equals (members : Members) (path : List String) (stack : List Frame)
  /-- The second bracket at the end of a header is due. -/
  | secondBracket (path : List String)
  /-- A member of an inline table is due, or its end. -/
  | member (members : Members) (stack : List Frame)
  /-- A value is due. -/
  | value (stack : List Frame)
  /-- In a bare value. -/
  | bare (text : List Char) (stack : List Frame)
  /-- After a date and a blank, where a time can follow. -/
  | dateSpace (text : List Char) (stack : List Frame)
  /-- A value is complete. -/
  | complete (v : Toml) (stack : List Frame)

namespace Reader

/-- The depth to which arrays and inline tables can be nested. -/
def depthLimit : Nat := 80

/-- The number of parts that a key can have. -/
def partLimit : Nat := 80

/-- Whether a character can stand in a bare key. -/
def inKey (c : Char) : Bool := c.isAlphanum || c == '_' || c == '-'

/-- The part of a key that a token is. -/
def keyPart? : Token → Option String
  | .bare s => if s.all inKey then some (.ofList s) else none
  | .string s false => some (.ofList s)
  | _ => none

/-- Reads the first token of a value. -/
def value? (stack : List Frame) : Token → Option Reader
  | .bare s => some (.bare s stack)
  | .string s _ => some (.complete (.string (.ofList s)) stack)
  | .openBracket => if stack.length ≤ depthLimit then some (.value (.item [] :: stack)) else none
  | .openBrace => if stack.length ≤ depthLimit then some (.member [] stack) else none
  | _ => none

/-- Reads what follows a complete value, and gives the line that it completes. -/
def complete? (v : Toml) (stack : List Frame) (t : Token) : Option (Reader × List Line) :=
  match t, stack with
  | .space _, _ => some (.complete v stack, [])
  | .newline, [.pair path] => some (.line, [.pair path v])
  | .newline, .item _ :: _ => some (.complete v stack, [])
  | .newline, .member .. :: _ => some (.complete v stack, [])
  | .comma, .item items :: stack => some (.value (.item (v :: items) :: stack), [])
  | .comma, .member members path :: stack =>
    (insert path v members).map fun members => (.member members stack, [])
  | .closeBracket, .item items :: stack =>
    some (.complete (.array (v :: items).reverse) stack, [])
  | .closeBrace, .member members path :: stack =>
    (insert path v members).map fun members => (.complete (.table .inline members) stack, [])
  | _, _ => none

/-- Reads what follows a bare value that has ended. -/
def afterBare? (text : List Char) (stack : List Frame) (t : Token) : Option (Reader × List Line) :=
  (Scalar.ofText? text).bind fun v => complete? v stack t

/-- Reads what follows a part of a key. -/
def keyEnd? (goal : Goal) (parts : List String) (t : Token) : Option (Reader × List Line) :=
  match t, goal with
  | .space _, _ => some (.keyEnd goal parts, [])
  | .dot, _ => some (.key goal parts, [])
  | .equals, .pair => some (.value [.pair parts.reverse], [])
  | .equals, .member members stack => some (.value (.member members parts.reverse :: stack), [])
  | .newline, .member members stack => some (.equals members parts.reverse stack, [])
  | .closeBracket, .header => some (.lineEnd, [.header parts.reverse])
  | .closeBracket, .arrayHeader => some (.secondBracket parts.reverse, [])
  | _, _ => none

/-- Reads a further part of a key. -/
def furtherPart? (goal : Goal) (parts : List String) (t : Token) : Option Reader :=
  if parts.length < partLimit then (keyPart? t).map fun k => .keyEnd goal (k :: parts) else none

/-- Reads one token, and gives the line that it completes. -/
def step? (r : Reader) (t : Token) : Option (Reader × List Line) :=
  match r, t with
  | .line, .space _ => some (.line, [])
  | .line, .newline => some (.line, [])
  | .line, .openBracket => some (.bracket, [])
  | .line, t => (keyPart? t).map fun k => (.keyEnd .pair [k], [])
  | .bracket, .openBracket => some (.key .arrayHeader [], [])
  | .bracket, .space _ => some (.key .header [], [])
  | .bracket, t => (keyPart? t).map fun k => (.keyEnd .header [k], [])
  | .lineEnd, .space _ => some (.lineEnd, [])
  | .lineEnd, .newline => some (.line, [])
  | .lineEnd, _ => none
  | .key goal parts, .space _ => some (.key goal parts, [])
  | .key goal parts, t => (furtherPart? goal parts t).map fun r => (r, [])
  | .keyEnd goal parts, t => keyEnd? goal parts t
  | .equals members path stack, .space _ => some (.equals members path stack, [])
  | .equals members path stack, .newline => some (.equals members path stack, [])
  | .equals members path stack, .equals => some (.value (.member members path :: stack), [])
  | .equals .., _ => none
  | .secondBracket path, .closeBracket => some (.lineEnd, [.arrayHeader path])
  | .secondBracket _, _ => none
  | .member members stack, .space _ => some (.member members stack, [])
  | .member members stack, .newline => some (.member members stack, [])
  | .member members stack, .closeBrace => some (.complete (.table .inline members) stack, [])
  | .member members stack, t => (keyPart? t).map fun k => (.keyEnd (.member members stack) [k], [])
  | .value stack, .space _ => some (.value stack, [])
  | .value (.item items :: stack), .newline => some (.value (.item items :: stack), [])
  | .value (.member members path :: stack), .newline =>
    some (.value (.member members path :: stack), [])
  | .value (.item items :: stack), .closeBracket =>
    some (.complete (.array items.reverse) stack, [])
  | .value stack, t => (value? stack t).map fun r => (r, [])
  | .bare text stack, .bare s => some (.bare (text ++ s) stack, [])
  | .bare text stack, .dot => some (.bare (text ++ ['.']) stack, [])
  | .bare text stack, .space one =>
    if one && DateTime.isDate text then some (.dateSpace text stack, [])
    else afterBare? text stack t
  | .bare text stack, t => afterBare? text stack t
  | .dateSpace text stack, .bare s => some (.bare (text ++ ' ' :: s) stack, [])
  | .dateSpace text stack, t => afterBare? text stack t
  | .complete v stack, t => complete? v stack t

/-- The lines that the end of the text completes. -/
def finish? : Reader → Option (List Line)
  | .line => some []
  | .lineEnd => some []
  | .bare text [.pair path] => (Scalar.ofText? text).map fun v => [.pair path v]
  | .dateSpace text [.pair path] => (Scalar.ofText? text).map fun v => [.pair path v]
  | .complete v [.pair path] => some [.pair path v]
  | _ => none

/-- The lines of a sequence of tokens that is read from a state on. -/
def lines? : Reader → List Token → Option (List Line)
  | r, [] => finish? r
  | r, t :: ts =>
    match step? r t with
    | none => none
    | some (r, lines) => (lines? r ts).map (lines ++ ·)

end Reader

/-- The members of the root of the document that a text is. -/
def ofText? (s : String) : Option Members := do
  ofLines? (← Reader.lines? .line (← tokens? s))

end BoundSql.Toml
