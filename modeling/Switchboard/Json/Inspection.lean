import Switchboard.Json.Number
import Switchboard.Text.Quoted

/-!
# JSON values shown for inspection

Every value with the name of its kind, so that a number and a string of digits look different.
-/

namespace Switchboard.Json

mutual

/-- A value shown for inspection. -/
def inspect : Json → List Char
  | .null => "Null".toList
  | .bool b => "Bool(".toList ++ Text.inspectBool b ++ [')']
  | .number n => "Number(".toList ++ n.text ++ [')']
  | .string s => "String(".toList ++ Text.quoted s ++ [')']
  | .array items => "Array ".toList ++ Text.inspectList (inspectItems items)
  | .object members =>
    "Object \x7b".toList ++ Text.joinWith [',', ' '] (inspectMembers members) ++ ['}']

/-- The items of an array, shown one by one. -/
def inspectItems : List Json → List (List Char)
  | [] => []
  | item :: items => item.inspect :: inspectItems items

/-- The members of an object, shown one by one. -/
def inspectMembers : List (String × Json) → List (List Char)
  | [] => []
  | (key, value) :: members =>
    (Text.quoted key ++ [':', ' '] ++ value.inspect) :: inspectMembers members

end

/-- Entries shown for inspection. -/
def inspectEntries (es : Entries Json) : List Char :=
  '{' :: Text.joinWith [',', ' '] (inspectMembers es) ++ ['}']

end Switchboard.Json
