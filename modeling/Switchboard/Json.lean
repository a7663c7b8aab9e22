import Switchboard.Binary64
import Switchboard.Decimal
import Switchboard.Entries

/-!
# JSON values

The values of JSON texts. A number is an integer where the text is one and it fits 64 bits, signed
or unsigned, and a floating-point number everywhere else. The members of an object are entries in
key order, so an object has each key once and no other order.

`WellFormed` says which members of the type are values of JSON texts: numbers in their ranges and
objects in order, at every depth.
-/

namespace Switchboard

namespace Json

/-- A number of a JSON text. -/
inductive Number where
  | int (n : Int)
  | float (x : Binary64)
  deriving DecidableEq, Repr, Inhabited

/-- The integers that fit 64 bits, signed or unsigned. -/
def Number.fits (n : Int) : Bool := Decimal.leastInt64 ≤ n && n ≤ Decimal.greatestNat64

end Json

/-- A JSON value. -/
inductive Json where
  | null
  | bool (b : Bool)
  | number (n : Json.Number)
  | string (s : String)
  | array (items : List Json)
  | object (members : List (String × Json))
  deriving Repr, Inhabited

namespace Json

/-- An integer as a value. -/
def ofInt (n : Int) : Json := .number (.int n)

/-- A floating-point number as a value; JSON has no numeral for what is not finite. -/
def ofFloat (x : Binary64) : Json := if x.isFinite then .number (.float x) else .null

/-- The text of a string value. -/
def asString? : Json → Option String
  | .string s => some s
  | _ => none

/-- The truth value of a boolean. -/
def asBool? : Json → Option Bool
  | .bool b => some b
  | _ => none

/-- The items of an array. -/
def asArray? : Json → Option (List Json)
  | .array items => some items
  | _ => none

/-- A number as a floating-point number; an integer becomes the nearest one. -/
def asFloat? : Json → Option Binary64
  | .number (.int n) => some (Binary64.ofInt n)
  | .number (.float x) => some x
  | _ => none

/-- Whether a value is the null of JSON. -/
def isNull : Json → Bool
  | .null => true
  | _ => false

/-- The member of an object under a key. -/
def get? (key : String) : Json → Option Json
  | .object members => Entries.get? key members
  | _ => none

/-- Whether a value is a given string. -/
def isText (text : String) (v : Json) : Bool := v.asString? == some text

mutual

/-- How deep arrays and objects are nested in a value. -/
def depth : Json → Nat
  | .array items => depthItems items + 1
  | .object members => depthMembers members + 1
  | _ => 0

/-- The greatest depth of the items. -/
def depthItems : List Json → Nat
  | [] => 0
  | item :: items => max item.depth (depthItems items)

/-- The greatest depth of the members' values. -/
def depthMembers : List (String × Json) → Nat
  | [] => 0
  | (_, value) :: members => max value.depth (depthMembers members)

end

mutual

/-- Values of JSON texts: numbers in their ranges, objects in order, at every depth. -/
def WellFormed : Json → Prop
  | .number (.int n) => Number.fits n
  | .number (.float x) => x.isFinite
  | .array items => WellFormedItems items
  | .object members => Entries.Sorted members ∧ WellFormedMembers members
  | _ => True

/-- Every item is well formed. -/
def WellFormedItems : List Json → Prop
  | [] => True
  | item :: items => item.WellFormed ∧ WellFormedItems items

/-- Every member's value is well formed. -/
def WellFormedMembers : List (String × Json) → Prop
  | [] => True
  | (_, value) :: members => value.WellFormed ∧ WellFormedMembers members

end

end Json

end Switchboard
