import Switchboard.Outcome
import Switchboard.Pattern.Reader
import Switchboard.Text.Split

/-!
# Fields in log filters

A field that a message must have, maybe with a value. A value is a truth value, a number, or else a
pattern. A number is a natural number if it can be one, else an integer if it can be one, and else a
floating-point number; integers are those that 64 bits hold.
-/

namespace Switchboard

/-- A value that a field must have. -/
inductive LogValue where
  | truth (b : Bool)
  | number (x : Binary64)
  | natural (n : Nat)
  | integer (n : Int)
  /-- Any text that matches a pattern. -/
  | pattern (text : List Char)
  deriving DecidableEq, Repr

namespace LogValue

/-- Reads a value; a text that is none of the others must be a pattern. -/
def ofText? (s : List Char) : Option LogValue :=
  if s = "true".toList then some (truth true)
  else if s = "false".toList then some (truth false)
  else
    match Decimal.integer 0 Decimal.greatestNat64 s with
    | .ok n => some (natural n.toNat)
    | .error _ =>
      match Decimal.integer Decimal.leastInt64 Decimal.greatestInt64 s with
      | .ok n => some (integer n)
      | .error _ =>
        match Binary64.parse s with
        | .ok x => some (number x)
        | .error _ => (Pattern.ofText? s).map fun _ => pattern s

/-- The text of a value, in which numbers are written as they always are. -/
def text : LogValue → List Char
  | truth b => (toString b).toList
  | number x => Outcome.floatLayout.text x
  | natural n => Decimal.ofNat n
  | integer n => Decimal.ofInt n
  | pattern text => text

/-- The place of a kind of value among the kinds. -/
def rank : LogValue → Nat
  | truth _ => 0
  | number _ => 1
  | natural _ => 2
  | integer _ => 3
  | pattern _ => 4

/-- Values are compared first by their kinds. -/
instance : Ord LogValue where
  compare
    | truth a, truth b => compare a b
    | number a, number b => compare a b
    | natural a, natural b => compare a b
    | integer a, integer b => compare a b
    | pattern a, pattern b => compare a b
    | a, b => compare a.rank b.rank

end LogValue

/-- A field that a message must have, maybe with a value. -/
structure LogField where
  name : List Char
  value : Option LogValue
  deriving DecidableEq, Repr

namespace LogField

/-- Reads a field: its name, and its value after an equals sign. -/
def ofText? (s : List Char) : Option LogField :=
  match Text.splitOn '=' s with
  | name :: value :: _ => (LogValue.ofText? value).map fun value => ⟨name, some value⟩
  | _ => some ⟨s, none⟩

/-- The text of a field. -/
def text (f : LogField) : List Char :=
  match f.value with
  | some value => f.name ++ '=' :: value.text
  | none => f.name

/-- Fields are compared by how specific they are; one with a value is so more than one without. -/
instance : Ord LogField where
  compare a b :=
    (compare a.value.isSome b.value.isSome).then <|
      (compare a.name b.name).then (compare a.value b.value)

end LogField

end Switchboard
