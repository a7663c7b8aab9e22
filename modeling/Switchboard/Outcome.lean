import Switchboard.Binary64.Text
import Switchboard.Json.Printer
import Switchboard.Outcome.Table

/-!
# Outcomes

What a command gives when it succeeds. Every outcome has a text, which message templates fill in,
and a JSON value. Some kinds come with a display of their own, which text output prefers to its
message, and some with a structured view, which JSON output prefers to the plain value.
-/

namespace Switchboard

/-- The result of a command. -/
inductive Outcome where
  | unit
  | text (s : String)
  | bool (b : Bool)
  | int (n : Int)
  | float (x : Binary64)
  | value (v : Json)
  /-- Structured data, shown as JSON. -/
  | data (v : Json)
  /-- Rows of cells, shown in columns. -/
  | table (rows : List (List String))
  /-- A record that knows its text, its display and its JSON value. -/
  | record (summary display : String) (view : Json)
  deriving Repr, Inhabited

namespace Outcome

/-- A floating-point number for humans has no exponent, and no fraction when it is whole. -/
def floatLayout : Binary64.Layout where
  positional _ := true
  keepsFraction := false
  nan := "NaN"
  infinity := "inf"

/-- The text of an outcome in a message. -/
def render : Outcome → String
  | unit => ""
  | text s => s
  | bool b => if b then "true" else "false"
  | int n => String.ofList (Decimal.ofInt n)
  | float x => String.ofList (floatLayout.text x)
  | value v => v.plainText
  | data v => String.ofList v.pretty
  | table rows => Table.tabbed rows
  | record summary _ _ => summary

/-- The JSON value of an outcome. -/
def toJson : Outcome → Json
  | unit => .null
  | text s => .string s
  | bool b => .bool b
  | int n => .ofInt n
  | float x => .ofFloat x
  | value v => v
  | data v => v
  | table rows => .object [("rows", .array (rows.map fun row => .array (row.map .string)))]
  | record _ _ view => view

/-- The display that an outcome brings along. -/
def display? : Outcome → Option String
  | table rows => some (Table.aligned rows)
  | record _ display _ => some display
  | _ => none

/-- The structured view that an outcome brings along. -/
def structured? : Outcome → Option Json
  | data v => some v
  | record _ _ view => some view
  | _ => none

/-- What a table or data looks like in columns; other outcomes have only their text. -/
def inColumns : Outcome → String
  | table rows => Table.aligned rows
  | outcome => outcome.render

end Outcome

end Switchboard
