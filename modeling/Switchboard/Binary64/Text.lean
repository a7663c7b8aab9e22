import Switchboard.Binary64.Shortest
import Switchboard.Decimal

/-!
# Floating-point numbers as text

The shortest digits of a number, laid out by a record of decisions: up to which magnitude the
numeral has no exponent, whether a whole number keeps a fraction, and how the rest is written.
-/

namespace Switchboard.Binary64

/-- How a floating-point number is laid out. The magnitude of a number is the exponent of its
leading digit. -/
structure Layout where
  /-- The magnitudes that are written without an exponent. -/
  positional : Int → Bool
  /-- Whether a whole number is written with the fraction `.0`. -/
  keepsFraction : Bool
  nan : String
  infinity : String

/-- Digits and the power of ten of the last one, written without an exponent. -/
def Layout.positionalText (layout : Layout) (digits : List Char) (k : Int) : List Char :=
  if k ≥ 0 then
    digits ++ List.replicate k.toNat '0' ++ (if layout.keepsFraction then ['.', '0'] else [])
  else
    let places := (-k).toNat
    if places < digits.length then
      digits.take (digits.length - places) ++ '.' :: digits.drop (digits.length - places)
    else ['0', '.'] ++ List.replicate (places - digits.length) '0' ++ digits

/-- Digits and the magnitude of the first one, written with an exponent that always has a sign. -/
def scientificText (digits : List Char) (magnitude : Int) : List Char :=
  let mantissa :=
    match digits with
    | first :: second :: rest => first :: '.' :: second :: rest
    | digits => digits
  let sign := if magnitude < 0 then '-' else '+'
  mantissa ++ ['e', sign] ++ Decimal.ofNat magnitude.natAbs

/-- A number laid out. -/
def Layout.text (layout : Layout) : Binary64 → List Char
  | .nan => layout.nan.toList
  | .infinite negative => (if negative then ['-'] else []) ++ layout.infinity.toList
  | .finite negative mantissa exponent =>
    let unsigned :=
      if mantissa = 0 then layout.positionalText ['0'] 0
      else
        let (d, k) := shortest mantissa exponent
        let digits := Decimal.ofNat d
        let magnitude := k + digits.length - 1
        if layout.positional magnitude then layout.positionalText digits k
        else scientificText digits magnitude
    (if negative then ['-'] else []) ++ unsigned

end Switchboard.Binary64
