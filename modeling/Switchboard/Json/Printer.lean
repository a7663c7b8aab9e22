import Switchboard.Json.Number
import Switchboard.Json.Token

/-!
# JSON texts

A value printed with blanks between its tokens. A `Style` says which blanks stand where and has no
other say, so every style prints the same tokens. There are three: none, one blank after commas and
colons, and one item a line.
-/

namespace Switchboard.Json

/-- A character inside a JSON string. -/
def escapeChar (c : Char) : List Char :=
  if c = '"' then ['\\', '"']
  else if c = '\\' then ['\\', '\\']
  else if c = '\x08' then ['\\', 'b']
  else if c = '\x0c' then ['\\', 'f']
  else if c = '\n' then ['\\', 'n']
  else if c = '\r' then ['\\', 'r']
  else if c = '\t' then ['\\', 't']
  else if c.toNat < 0x20 then
    ['\\', 'u', '0', '0', Nat.digitChar (c.toNat / 16), Nat.digitChar (c.toNat % 16)]
  else [c]

/-- A text as a JSON string. -/
def quote (s : List Char) : List Char := '"' :: s.flatMap escapeChar ++ ['"']

/-- The text of a token. -/
def Token.text : Token → List Char
  | .openArray => ['[']
  | .closeArray => [']']
  | .openObject => ['{']
  | .closeObject => ['}']
  | .comma => [',']
  | .colon => [':']
  | .null => "null".toList
  | .bool b => if b then "true".toList else "false".toList
  | .number n => n.text
  | .string s => quote s.toList

/-- The blanks of a printed value. The argument is the nesting depth inside the brackets. -/
structure Style where
  afterOpen : Nat → List Char
  afterComma : Nat → List Char
  beforeClose : Nat → List Char
  afterColon : List Char

/-- No blanks at all. -/
def Style.compact : Style := ⟨fun _ => [], fun _ => [], fun _ => [], []⟩

/-- One blank after every comma and colon. -/
def Style.spaced : Style := ⟨fun _ => [], fun _ => [' '], fun _ => [], [' ']⟩

/-- A new line, indented by two blanks for each bracket around it. -/
def newLine (depth : Nat) : List Char := '\n' :: List.replicate (2 * depth) ' '

/-- One item or member a line. -/
def Style.pretty : Style := ⟨newLine, newLine, fun depth => newLine (depth - 1), [' ']⟩

mutual

/-- A value in a style, inside `depth` brackets. -/
def print (style : Style) (depth : Nat) : Json → List Char
  | .null => Token.null.text
  | .bool b => (Token.bool b).text
  | .number n => (Token.number n).text
  | .string s => (Token.string s).text
  | .array [] => ['[', ']']
  | .array (item :: items) =>
    '[' :: style.afterOpen (depth + 1) ++ print style (depth + 1) item ++
      printItems style (depth + 1) items ++ style.beforeClose (depth + 1) ++ [']']
  | .object [] => ['{', '}']
  | .object ((key, value) :: members) =>
    '{' :: style.afterOpen (depth + 1) ++ quote key.toList ++ ':' :: style.afterColon ++
      print style (depth + 1) value ++ printMembers style (depth + 1) members ++
      style.beforeClose (depth + 1) ++ ['}']

/-- Items after a first one. -/
def printItems (style : Style) (depth : Nat) : List Json → List Char
  | [] => []
  | item :: items =>
    ',' :: style.afterComma depth ++ print style depth item ++ printItems style depth items

/-- Members after a first one. -/
def printMembers (style : Style) (depth : Nat) : List (String × Json) → List Char
  | [] => []
  | (key, value) :: members =>
    ',' :: style.afterComma depth ++ quote key.toList ++ ':' :: style.afterColon ++
      print style depth value ++ printMembers style depth members

end

/-- A value without blanks. -/
def compact (v : Json) : List Char := print .compact 0 v

/-- A value with one blank after commas and colons. -/
def spaced (v : Json) : List Char := print .spaced 0 v

/-- A value with one item a line. -/
def pretty (v : Json) : List Char := print .pretty 0 v

/-- `compact`, as a string. -/
def compactString (v : Json) : String := String.ofList v.compact

/-- A value as a text for humans: strings without quotes, all else without blanks. -/
def plainText : Json → String
  | .string s => s
  | v => v.compactString

end Switchboard.Json
