/-!
# Floating-point numbers of 64 bits

The numbers of the IEEE format binary64, each as what it denotes: a sign, a mantissa below `2^53`
and an exponent of two. All arithmetic is exact arithmetic on naturals followed by one rounding,
`ofRatio`, to the nearest number of the format, a tie going to the even mantissa.
-/

namespace Switchboard

/-- A number of the format: not a number, an infinity, or `± mantissa * 2 ^ exponent`. -/
inductive Binary64 where
  | nan
  | infinite (negative : Bool)
  | finite (negative : Bool) (mantissa : Nat) (exponent : Int)
  deriving DecidableEq, Repr, Inhabited

namespace Binary64

/-- The least exponent of the format. -/
def leastExponent : Int := -1074

/-- The greatest exponent of the format. -/
def greatestExponent : Int := 971

/-- The bound that all mantissas stay below, `2 ^ 53`. -/
def mantissaLimit : Nat := 9007199254740992

/-- The least mantissa of a number above the least exponent, `2 ^ 52`. -/
def leastNormal : Nat := 4503599627370496

/-- The zero of a sign. -/
def zero (negative : Bool) : Binary64 := .finite negative 0 leastExponent

/-- The quotient of two naturals, rounded to the nearest whole number, a tie to the even one. -/
def divNearestEven (num den : Nat) : Nat :=
  let quotient := num / den
  let twice := 2 * (num % den)
  if twice < den then quotient
  else if twice > den then quotient + 1
  else quotient + quotient % 2

/-- A ratio over `2 ^ exponent`, again as a ratio. -/
def unscale (num den : Nat) (exponent : Int) : Nat × Nat :=
  (num * Nat.pow 2 (-exponent).toNat, den * Nat.pow 2 exponent.toNat)

/-- The exponent at which a positive ratio has a mantissa of 53 bits, or the least exponent. -/
def exponentOf (num den : Nat) : Int :=
  let low : Int := (num.log2 : Int) - den.log2 - 53
  let (scaledNum, scaledDen) := unscale num den low
  let exact := if scaledNum / scaledDen < mantissaLimit then low else low + 1
  max exact leastExponent

/-- The number of the format that is nearest to a ratio of naturals. -/
def ofRatio (negative : Bool) (num den : Nat) : Binary64 :=
  if num = 0 then zero negative
  else
    let exponent := exponentOf num den
    let (scaledNum, scaledDen) := unscale num den exponent
    let mantissa := divNearestEven scaledNum scaledDen
    let (mantissa, exponent) :=
      if mantissa = mantissaLimit then (leastNormal, exponent + 1) else (mantissa, exponent)
    if exponent > greatestExponent then .infinite negative
    else .finite negative mantissa exponent

/-- The number nearest to an integer. -/
def ofInt (n : Int) : Binary64 := ofRatio (n < 0) n.natAbs 1

/-- A mantissa and an exponent as a ratio. -/
def toRatio (mantissa : Nat) (exponent : Int) : Nat × Nat :=
  (mantissa * Nat.pow 2 exponent.toNat, Nat.pow 2 (-exponent).toNat)

/-- The same number with the other sign. -/
def neg : Binary64 → Binary64
  | .nan => .nan
  | .infinite negative => .infinite !negative
  | .finite negative mantissa exponent => .finite (!negative) mantissa exponent

/-- Neither an infinity nor not a number. -/
def isFinite : Binary64 → Bool
  | .finite .. => true
  | _ => false

/-- A zero of either sign. -/
def isZero : Binary64 → Bool
  | .finite _ mantissa _ => mantissa == 0
  | _ => false

/-- The product of two positive finite numbers, rounded; any other pair gives not a number. -/
def mulFinite : Binary64 → Binary64 → Binary64
  | .finite s m e, .finite t n f =>
    let (num, den) := toRatio (m * n) (e + f)
    ofRatio (s != t) num den
  | _, _ => .nan

/-- The quotient of a finite number by a finite number other than zero, rounded. -/
def divFinite : Binary64 → Binary64 → Binary64
  | .finite s m e, .finite t n f =>
    let (num, den) := toRatio m (e - f)
    ofRatio (s != t) num (den * n)
  | _, _ => .nan

/-- The place of a number among the kinds: the negative infinity, finite numbers, the infinity, and
not a number. -/
def rank : Binary64 → Nat
  | .infinite true => 0
  | .finite .. => 1
  | .infinite false => 2
  | .nan => 3

/-- How many times the least positive number of the format a finite number is. -/
def units : Binary64 → Int
  | .finite negative mantissa exponent =>
    let size : Int := mantissa * Nat.pow 2 (exponent - leastExponent).toNat
    if negative then -size else size
  | _ => 0

/-- The order of numbers, in which the two zeros are equal and not a number is the greatest. -/
instance : Ord Binary64 where
  compare a b := (compare a.rank b.rank).then (compare a.units b.units)

example : ofInt 9007199254740993 = .finite false 4503599627370496 1 := by decide +kernel

example : ofRatio true 1 10 = .finite true 7205759403792794 (-56) := by decide +kernel

example : compare (zero true) (zero false) = .eq := by decide +kernel

end Binary64

end Switchboard
