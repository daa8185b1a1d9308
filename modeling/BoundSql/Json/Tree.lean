import BoundSql.Json.Lexer

/-!
# JSON documents

A `Json` is a document as a tree; an object keeps its members in order, repeated ones included.
`Json.tokens` writes a document without white space.  `Json.ofTokens?` reads one with a stack of
the arrays and objects that are open, of which there can be 127.
-/

namespace BoundSql

/-- A JSON document. -/
inductive Json
  | null
  | bool (b : Bool)
  | number (n : Json.Number)
  | string (s : String)
  | array (items : List Json)
  | object (members : List (String × Json))
deriving Inhabited

namespace Json

/-! ## Writing -/

mutual

/-- The tokens of a document. -/
def tokens : Json → List Token
  | .null => [.null]
  | .bool b => [.bool b]
  | .number n => [.number n]
  | .string s => [.string s.toList]
  | .array items => .openArray :: itemTokens items ++ [.closeArray]
  | .object members => .openObject :: memberTokens members ++ [.closeObject]

/-- The tokens between the brackets of an array. -/
def itemTokens : List Json → List Token
  | [] => []
  | [v] => tokens v
  | v :: w :: items => tokens v ++ .comma :: itemTokens (w :: items)

/-- The tokens between the braces of an object. -/
def memberTokens : List (String × Json) → List Token
  | [] => []
  | [(k, v)] => .string k.toList :: .colon :: tokens v
  | (k, v) :: m :: members =>
    .string k.toList :: .colon :: (tokens v ++ .comma :: memberTokens (m :: members))

end

/-- The text of a document. -/
def text (v : Json) : String := .ofList (v.tokens.flatMap Token.text)

/-! ## Reading -/

/-- An array or object that is open, with what it holds so far in reverse. -/
inductive Frame
  | array (items : List Json)
  /-- The value of the member `key` is being read. -/
  | object (members : List (String × Json)) (key : String)

/-- What has been read, from the innermost open array or object on. -/
inductive Reader
  /-- A value is due. -/
  | value (stack : List Frame)
  /-- An array has just been opened. -/
  | firstItem (stack : List Frame)
  /-- An object has just been opened. -/
  | firstKey (stack : List Frame)
  /-- The name of a further member is due. -/
  | key (members : List (String × Json)) (stack : List Frame)
  /-- The colon after a name is due. -/
  | colon (members : List (String × Json)) (key : String) (stack : List Frame)
  /-- A value is complete. -/
  | complete (v : Json) (stack : List Frame)

namespace Reader

/-- The number of arrays and objects that can be open. -/
def depthLimit : Nat := 127

/-- Reads the first token of a value. -/
def value? (stack : List Frame) : Token → Option Reader
  | .null => some (.complete .null stack)
  | .bool b => some (.complete (.bool b) stack)
  | .number n => some (.complete (.number n) stack)
  | .string s => some (.complete (.string (.ofList s)) stack)
  | .openArray => if stack.length < depthLimit then some (.firstItem stack) else none
  | .openObject => if stack.length < depthLimit then some (.firstKey stack) else none
  | _ => none

/-- Reads the name of a member. -/
def key? (members : List (String × Json)) (stack : List Frame) : Token → Option Reader
  | .string s => some (.colon members (.ofList s) stack)
  | _ => none

/-- Reads what follows a complete value: a comma or the end of what holds it. -/
def complete? (v : Json) : List Frame → Token → Option Reader
  | .array items :: stack, .comma => some (.value (.array (v :: items) :: stack))
  | .array items :: stack, .closeArray => some (.complete (.array (v :: items).reverse) stack)
  | .object members k :: stack, .comma => some (.key ((k, v) :: members) stack)
  | .object members k :: stack, .closeObject =>
    some (.complete (.object ((k, v) :: members).reverse) stack)
  | _, _ => none

/-- Reads one token. -/
def step? : Reader → Token → Option Reader
  | .value stack, t => value? stack t
  | .firstItem stack, t =>
    if t = .closeArray then some (.complete (.array []) stack) else value? (.array [] :: stack) t
  | .firstKey stack, t =>
    if t = .closeObject then some (.complete (.object []) stack) else key? [] stack t
  | .key members stack, t => key? members stack t
  | .colon members k stack, t =>
    if t = .colon then some (.value (.object members k :: stack)) else none
  | .complete v stack, t => complete? v stack t

end Reader

/-- The document that a sequence of tokens is. -/
def ofTokens? (ts : List Token) : Option Json :=
  match ts.foldlM Reader.step? (.value []) with
  | some (.complete v []) => some v
  | _ => none

/-- The document that a text is. -/
def ofText? (s : String) : Option Json := (tokens? s).bind ofTokens?

end Json

end BoundSql
