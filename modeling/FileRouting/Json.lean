import FileRouting.Text

/-!
# JSON

JSON values, their tokens, and the two ways of writing them.  The compact form
is the tokens of a value without anything in between.  The indented form puts
each member on a line of its own, two blanks deeper than what holds it.

Strings escape `"`, `\` and the control characters below the blank; all other
characters are written as they are.  The members of an object are kept in the
order in which they are written.
-/

namespace FileRouting

/-- A JSON value.  A number is kept as it is written. -/
inductive Json where
  | null
  | bool (value : Bool)
  | number (literal : Text)
  | string (value : Text)
  | array (items : List Json)
  | object (members : List (Text × Json))

namespace Json

/-- A lexical unit of JSON. -/
inductive Token where
  | openBrace
  | closeBrace
  | openBracket
  | closeBracket
  | colon
  | comma
  | null
  | bool (value : Bool)
  | number (literal : Text)
  | string (value : Text)
  deriving DecidableEq, Repr

/-- A character as it stands inside a string. -/
def escapeChar (c : Char) : Text :=
  if c = '"' then ['\\', '"']
  else if c = '\\' then ['\\', '\\']
  else if c = '\x08' then ['\\', 'b']
  else if c = '\x0c' then ['\\', 'f']
  else if c = '\n' then ['\\', 'n']
  else if c = '\r' then ['\\', 'r']
  else if c = '\t' then ['\\', 't']
  else if c.toNat < 0x20 then
    ['\\', 'u', '0', '0', Nat.digitChar (c.toNat / 16),
      Nat.digitChar (c.toNat % 16)]
  else [c]

/-- A string with its quotes. -/
def quote (value : Text) : Text :=
  '"' :: value.flatMap escapeChar ++ ['"']

namespace Token

def toText : Token → Text
  | .openBrace => ['\x7b']
  | .closeBrace => ['\x7d']
  | .openBracket => ['[']
  | .closeBracket => [']']
  | .colon => [':']
  | .comma => [',']
  | .null => "null".toList
  | .bool true => "true".toList
  | .bool false => "false".toList
  | .number literal => literal
  | .string value => quote value

end Token

mutual

/-- The tokens of a value. -/
def tokens : Json → List Token
  | .null => [.null]
  | .bool value => [.bool value]
  | .number literal => [.number literal]
  | .string value => [.string value]
  | .array items => .openBracket :: itemTokens items ++ [.closeBracket]
  | .object members => .openBrace :: memberTokens members ++ [.closeBrace]

def itemTokens : List Json → List Token
  | [] => []
  | [item] => item.tokens
  | item :: later => item.tokens ++ .comma :: itemTokens later

def memberTokens : List (Text × Json) → List Token
  | [] => []
  | [(key, value)] => .string key :: .colon :: value.tokens
  | (key, value) :: later =>
      .string key :: .colon :: value.tokens ++ .comma :: memberTokens later

end

/-- A value on one line without blanks. -/
def compact (value : Json) : Text :=
  value.tokens.flatMap Token.toText

def newLine (depth : Nat) : Text :=
  '\n' :: List.replicate (2 * depth) ' '

mutual

/-- A value over several lines, inside so many arrays and objects. -/
def indentAt (depth : Nat) : Json → Text
  | .null => Token.null.toText
  | .bool value => (Token.bool value).toText
  | .number literal => literal
  | .string value => quote value
  | .array [] => "[]".toList
  | .array (item :: later) =>
      '[' :: indentItems (depth + 1) (item :: later) ++ newLine depth ++ [']']
  | .object [] => "\x7b\x7d".toList
  | .object (member :: later) =>
      '\x7b' :: indentMembers (depth + 1) (member :: later) ++ newLine depth ++
        ['\x7d']

/-- The items of an array, each on its own lines. -/
def indentItems (depth : Nat) : List Json → Text
  | [] => []
  | [item] => newLine depth ++ item.indentAt depth
  | item :: later =>
      newLine depth ++ item.indentAt depth ++ ',' :: indentItems depth later

/-- The members of an object, each on its own lines. -/
def indentMembers (depth : Nat) : List (Text × Json) → Text
  | [] => []
  | [(key, value)] =>
      newLine depth ++ quote key ++ ": ".toList ++ value.indentAt depth
  | (key, value) :: later =>
      newLine depth ++ quote key ++ ": ".toList ++ value.indentAt depth ++
        ',' :: indentMembers depth later

end

/-- A value over several lines. -/
def indented (value : Json) : Text :=
  value.indentAt 0

end Json

end FileRouting
