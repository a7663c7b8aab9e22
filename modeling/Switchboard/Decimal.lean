/-!
# Decimal numerals

Digits and the numerals made of them: whole numbers in a base, signed whole numbers within bounds,
and decimal numerals with a fraction and an exponent. What a numeral denotes as a floating-point
number is said in `Binary64/Reading.lean`; which numerals a format allows is said where the format
is.
-/

namespace Switchboard.Decimal

/-- The value of a digit in a base up to sixteen. -/
def digitIn? (base : Nat) (c : Char) : Option Nat :=
  let value? : Option Nat :=
    if c.isDigit then some (c.toNat - '0'.toNat)
    else if 'a' ≤ c ∧ c ≤ 'f' then some (c.toNat - 'a'.toNat + 10)
    else if 'A' ≤ c ∧ c ≤ 'F' then some (c.toNat - 'A'.toNat + 10)
    else none
  value?.filter (· < base)

/-- The whole number that digits denote in a base; there must be at least one. -/
def natIn? (base : Nat) (digits : List Char) : Option Nat :=
  if digits.isEmpty then none
  else digits.foldlM (fun value c => (digitIn? base c).map (value * base + ·)) 0

/-- The value of decimal digits; characters that are none are not expected here. -/
def natOf (digits : List Char) : Nat :=
  digits.foldl (fun value c => 10 * value + (c.toNat - '0'.toNat)) 0

/-- The decimal digits of a whole number. -/
def ofNat (n : Nat) : List Char := Nat.toDigits 10 n

/-- The decimal numeral of an integer. -/
def ofInt : Int → List Char
  | .ofNat n => ofNat n
  | .negSucc n => '-' :: ofNat (n + 1)

/-! ## Signed whole numbers within bounds -/

/-- The least integer that 64 bits hold. -/
def leastInt64 : Int := -9223372036854775808

/-- The greatest integer that 64 bits hold. -/
def greatestInt64 : Int := 9223372036854775807

/-- The greatest natural number that 64 bits hold. -/
def greatestNat64 : Nat := 18446744073709551615

/-- Why a text is not a whole number within bounds. -/
inductive IntegerFault where
  | empty
  | invalidDigit
  | tooLarge
  | tooSmall
  deriving DecidableEq, Repr

/-- Reads digits after a sign, from left to right; the first digit that breaks a bound ends it. -/
def integerFrom (negative : Bool) (least greatest : Int) (value : Int) :
    List Char → Except IntegerFault Int
  | [] => .ok value
  | c :: rest =>
    if c.isDigit then
      let digit : Int := c.toNat - '0'.toNat
      if negative then
        if value * 10 - digit < least then .error .tooSmall
        else integerFrom negative least greatest (value * 10 - digit) rest
      else if value * 10 + digit > greatest then .error .tooLarge
      else integerFrom negative least greatest (value * 10 + digit) rest
    else .error .invalidDigit

/-- A whole number between two bounds, as digits after an optional sign. A minus is a sign only
where negative numbers are possible. -/
def integer (least greatest : Int) : List Char → Except IntegerFault Int
  | [] => .error .empty
  | ['+'] => .error .invalidDigit
  | ['-'] => .error .invalidDigit
  | '+' :: digits => integerFrom false least greatest 0 digits
  | '-' :: digits =>
    if least < 0 then integerFrom true least greatest 0 digits else .error .invalidDigit
  | digits => integerFrom false least greatest 0 digits

/-! ## Numerals with fraction and exponent -/

/-- The sign in front of a numeral. -/
inductive Sign where
  | absent
  | plus
  | minus
  deriving DecidableEq, Repr

/-- A decimal numeral in parts. The digits are kept as they were written. -/
structure Numeral where
  sign : Sign
  whole : List Char
  fraction : Option (List Char)
  exponent : Option Int
  deriving DecidableEq, Repr

/-- Splits a sign off a text. -/
def takeSign : List Char → Sign × List Char
  | '+' :: rest => (.plus, rest)
  | '-' :: rest => (.minus, rest)
  | s => (.absent, s)

/-- An exponent: an optional sign and at least one digit, nothing else. -/
def exponent? (s : List Char) : Option Int :=
  let (sign, digits) := takeSign s
  if digits.isEmpty || !digits.all Char.isDigit then none
  else if sign = .minus then some (-(natOf digits : Int))
  else some (natOf digits)

/-- What follows the whole part and the fraction: nothing, or the mark `e` and an exponent. -/
def tail? : List Char → Option (Option Int)
  | [] => some none
  | mark :: rest => if mark = 'e' ∨ mark = 'E' then (exponent? rest).map some else none

/-- The parts of a numeral. Every part but the sign may be empty or missing here; each format adds
its own demands. -/
def numeral? (s : List Char) : Option Numeral :=
  let (sign, s) := takeSign s
  let whole := s.takeWhile Char.isDigit
  match s.dropWhile Char.isDigit with
  | '.' :: rest =>
    (tail? (rest.dropWhile Char.isDigit)).map fun exponent =>
      { sign, whole, fraction := some (rest.takeWhile Char.isDigit), exponent }
  | rest => (tail? rest).map fun exponent => { sign, whole, fraction := none, exponent }

/-- Whether the sign of a numeral is a minus. -/
def Numeral.isNegative (n : Numeral) : Bool := n.sign = .minus

example : (numeral? "-12.50e+3".toList) =
    some ⟨.minus, ['1', '2'], some ['5', '0'], some 3⟩ := by decide

example : integer (-128) 127 "-129".toList = .error .tooSmall := rfl

end Switchboard.Decimal
