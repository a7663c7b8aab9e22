import Switchboard.Json

/-!
# JSON tokens

What a JSON text is made of between its blanks: six marks, and the three kinds of atoms. A value is
a list of tokens (`Json.tokens`); the blanks between tokens carry no meaning.
-/

namespace Switchboard.Json

/-- A token of a JSON text. -/
inductive Token where
  | openArray
  | closeArray
  | openObject
  | closeObject
  | comma
  | colon
  | null
  | bool (b : Bool)
  | number (n : Number)
  | string (s : String)
  deriving DecidableEq, Repr

mutual

/-- The tokens of a value. -/
def tokens : Json → List Token
  | .null => [.null]
  | .bool b => [.bool b]
  | .number n => [.number n]
  | .string s => [.string s]
  | .array items => .openArray :: tokensItems items ++ [.closeArray]
  | .object members => .openObject :: tokensMembers members ++ [.closeObject]

/-- The tokens of items with commas between them. -/
def tokensItems : List Json → List Token
  | [] => []
  | [item] => item.tokens
  | item :: next :: items => item.tokens ++ .comma :: tokensItems (next :: items)

/-- The tokens of members with commas between them. -/
def tokensMembers : List (String × Json) → List Token
  | [] => []
  | [(key, value)] => .string key :: .colon :: value.tokens
  | (key, value) :: next :: members =>
    .string key :: .colon :: value.tokens ++ .comma :: tokensMembers (next :: members)

end

end Switchboard.Json
