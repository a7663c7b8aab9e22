import Switchboard.Binary64.Reading
import Switchboard.Binary64.Text
import Switchboard.Json

/-!
# Numbers in JSON texts

A JSON numeral has no plus sign, no leading zero, and digits on both sides of a point. It denotes
an integer when it has neither fraction nor exponent and fits 64 bits; `-0`, which is no integer of
its own, and everything else is a floating-point number, read by the scaled rule.
-/

namespace Switchboard.Json.Number

open Decimal

/-- The numerals that JSON allows. -/
def isAllowed (n : Numeral) : Bool :=
  n.sign != .plus && !n.whole.isEmpty && (n.whole.head? != some '0' || n.whole.length == 1) &&
    n.fraction != some []

/-- What an allowed numeral denotes; none when it is too large for a number. -/
def value? (n : Numeral) : Option Number :=
  let magnitude : Int := natOf n.whole
  let integer := if n.isNegative then -magnitude else magnitude
  if n.fraction.isNone && n.exponent.isNone && fits integer &&
      !(n.isNegative && magnitude == 0) then
    some (.int integer)
  else (Binary64.scaled? n).map .float

/-- The number that a text is, as JSON. -/
def ofText? (s : List Char) : Option Number :=
  ((numeral? s).filter isAllowed).bind value?

/-- JSON writes floating-point numbers of magnitude -5 to 15 without an exponent, and always so
that they are told apart from integers. -/
def layout : Binary64.Layout where
  positional magnitude := -5 ≤ magnitude && magnitude ≤ 15
  keepsFraction := true
  nan := "null"
  infinity := "null"

/-- The numeral of a number. -/
def text : Number → List Char
  | .int n => Decimal.ofInt n
  | .float x => if x.isFinite then layout.text x else "null".toList

example : ofText? "1E2".toList = some (.float (Binary64.ofInt 100)) := by decide +kernel

example : ofText? "007".toList = none := by decide

end Switchboard.Json.Number
