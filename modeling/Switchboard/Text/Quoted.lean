import Switchboard.Text.InvisibleTable
import Switchboard.Text.LowerCase
import Switchboard.Text.Split

/-!
# Quoted text and inspection text

How a value looks when it is shown for inspection: texts in double quotes with escapes, records as
`Name { field: value }`, lists in brackets. The inspection text of each type is written where the
type is; this module holds the shapes that they share.
-/

namespace Switchboard.Text

/-- The hexadecimal digits of a number, in lower case. -/
def hexDigits (n : Nat) : List Char := Nat.toDigits 16 n

/-- A character is shown by its code point when it has no glyph of its own. -/
def isInvisible (c : Char) : Bool :=
  c.toNat < 0x20 || c.toNat == 0x7F || inRanges InvisibleTable.ranges c.toNat

/-- One character inside quotes. -/
def quoteChar (c : Char) : List Char :=
  if c = '"' then ['\\', '"']
  else if c = '\\' then ['\\', '\\']
  else if c = '\n' then ['\\', 'n']
  else if c = '\r' then ['\\', 'r']
  else if c = '\t' then ['\\', 't']
  else if c = '\x00' then ['\\', '0']
  else if isInvisible c then ['\\', 'u', '{'] ++ hexDigits c.toNat ++ ['}']
  else [c]

/-- A text in double quotes. -/
def quoted (s : String) : List Char :=
  '"' :: s.toList.flatMap quoteChar ++ ['"']

/-- A list shown for inspection. -/
def inspectList (items : List (List Char)) : List Char :=
  '[' :: joinWith [',', ' '] items ++ [']']

/-- An optional value shown for inspection. -/
def inspectOption : Option (List Char) → List Char
  | none => "None".toList
  | some text => "Some(".toList ++ text ++ [')']

/-- A truth value shown for inspection. -/
def inspectBool (b : Bool) : List Char :=
  if b then "true".toList else "false".toList

/-- A record shown for inspection: its name, then its fields in order. -/
def inspectRecord (name : String) (fields : List (String × List Char)) : List Char :=
  name.toList ++ [' ', '{', ' '] ++
    joinWith [',', ' '] (fields.map fun (field, text) => field.toList ++ [':', ' '] ++ text) ++
    [' ', '}']

end Switchboard.Text
