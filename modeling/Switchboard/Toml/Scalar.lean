import Switchboard.Binary64.Reading
import Switchboard.Text.Split
import Switchboard.Toml

/-!
# Words in TOML documents

The values that are written as one word: truth values, whole numbers in four bases, floating-point
numbers, dates and times. Underscores may stand between digits.
-/

namespace Switchboard.Toml

/-- Digits without the underscores between them; each underscore has a digit on both sides. -/
def digits? (base : Nat) (s : List Char) : Option (List Char) :=
  let parts := Text.splitOn '_' s
  if parts.all fun part => !part.isEmpty && part.all fun c => (Decimal.digitIn? base c).isSome then
    some parts.flatten
  else none

/-- Decimal digits without a zero in front. -/
def wholeDigits? (s : List Char) : Option (List Char) :=
  (digits? 10 s).filter fun digits => digits.head? != some '0' || digits.length == 1

/-- A whole number in a base, after the letters that name the base. -/
def basedInteger? (base : Nat) (s : List Char) : Option Toml :=
  ((digits? base s).bind (Decimal.natIn? base)).bind fun n =>
    if n ≤ Decimal.greatestInt64 then some (.integer n) else none

/-- A whole number in decimal. -/
def decimalInteger? (s : List Char) : Option Toml :=
  let (sign, s) := Decimal.takeSign s
  (wholeDigits? s).bind fun digits =>
    let magnitude : Int := Decimal.natOf digits
    let n := if sign = .minus then -magnitude else magnitude
    if Decimal.leastInt64 ≤ n ∧ n ≤ Decimal.greatestInt64 then some (.integer n) else none

/-- A whole number. -/
def integer? : List Char → Option Toml
  | '0' :: 'x' :: rest => basedInteger? 16 rest
  | '0' :: 'o' :: rest => basedInteger? 8 rest
  | '0' :: 'b' :: rest => basedInteger? 2 rest
  | s => decimalInteger? s

/-- What follows a mark: nothing if the mark is missing, else the digits after it. -/
def afterMark? (read : List Char → Option (List Char)) :
    List Char → Option (Option (List Char))
  | [] => some none
  | _ :: rest => (read rest).map some

/-- The exponent of a number: an optional sign and digits. -/
def exponent? (s : List Char) : Option (List Char) :=
  let (sign, digits) := Decimal.takeSign s
  (digits? 10 digits).map fun digits => if sign = .minus then '-' :: digits else digits

/-- A floating-point number with a fraction or an exponent. One that is too large is refused. -/
def numeral? (s : List Char) : Option Toml :=
  let isMark := fun c => c == 'e' || c == 'E'
  let (sign, unsigned) := Decimal.takeSign (s.takeWhile fun c => !isMark c)
  let whole := wholeDigits? (unsigned.takeWhile (· != '.'))
  let fraction := afterMark? (digits? 10) (unsigned.dropWhile (· != '.'))
  let exponent := afterMark? exponent? (s.dropWhile fun c => !isMark c)
  match whole, fraction, exponent with
  | some whole, some fraction, some exponent =>
    if fraction.isNone && exponent.isNone then none
    else
      let x := Binary64.nearest ⟨sign, whole, fraction, exponent.bind Decimal.exponent?⟩
      if x = .infinite false then none else some (.float x)
  | _, _, _ => none

/-- A floating-point number. -/
def float? (s : List Char) : Option Toml :=
  let (sign, name) := Decimal.takeSign s
  let signed := fun (x : Binary64) => some (Toml.float (if sign = .minus then x.neg else x))
  if name = "inf".toList then signed (.infinite false)
  else if name = "nan".toList then signed .nan
  else numeral? s

/-! ## Dates and times -/

/-- A number of so many digits, if it is within bounds. -/
def isNumber (size least greatest : Nat) (s : List Char) : Bool :=
  s.length == size && s.all Char.isDigit && least ≤ Decimal.natOf s && Decimal.natOf s ≤ greatest

/-- How many days a month has. -/
def daysIn (year month : Nat) : Nat :=
  if month = 2 then
    if year % 4 = 0 ∧ (year % 100 ≠ 0 ∨ year % 400 = 0) then 29 else 28
  else if month = 4 ∨ month = 6 ∨ month = 9 ∨ month = 11 then 30
  else 31

/-- A date. -/
def isDate (s : List Char) : Bool :=
  match Text.splitOn '-' s with
  | [year, month, day] =>
    isNumber 4 0 9999 year && isNumber 2 1 12 month &&
      isNumber 2 1 (daysIn (Decimal.natOf year) (Decimal.natOf month)) day
  | _ => false

/-- A second, maybe with a fraction. -/
def isSecond (s : List Char) : Bool :=
  isNumber 2 0 60 (s.take 2) &&
    match s.drop 2 with
    | [] => true
    | c :: fraction => c == '.' && !fraction.isEmpty && fraction.all Char.isDigit

/-- A time of the day. -/
def isTime (s : List Char) : Bool :=
  match Text.splitOn ':' s with
  | [hour, minute, second] => isNumber 2 0 23 hour && isNumber 2 0 59 minute && isSecond second
  | _ => false

/-- How far a time is from universal time; nothing if that is not said. -/
def isOffset : List Char → Bool
  | [] => true
  | [c] => c == 'Z' || c == 'z'
  | sign :: rest =>
    (sign == '+' || sign == '-') &&
      match Text.splitOn ':' rest with
      | [hour, minute] => isNumber 2 0 23 hour && isNumber 2 0 59 minute
      | _ => false

/-- The characters of a time of the day. -/
def isTimeChar (c : Char) : Bool := c.isDigit || c == ':' || c == '.'

/-- The marks between a date and a time. -/
def isTimeMark (c : Char) : Bool := c == 'T' || c == 't' || c == ' '

/-- A date, a time, or both. -/
def isDatetime (s : List Char) : Bool :=
  isDate s || isTime s ||
    match s.drop 10 with
    | mark :: rest =>
      isDate (s.take 10) && isTimeMark mark && isTime (rest.takeWhile isTimeChar) &&
        isOffset (rest.dropWhile isTimeChar)
    | [] => false

/-- A date, a time, or both, as a value. -/
def datetime? (s : List Char) : Option Toml :=
  if isDatetime s then some (.datetime (String.ofList s)) else none

/-! ## Words -/

/-- A truth value. -/
def bool? (s : List Char) : Option Toml :=
  if s = "true".toList then some (.bool true)
  else if s = "false".toList then some (.bool false)
  else none

/-- The value of a word. -/
def ofWord? (s : List Char) : Option Toml :=
  (bool? s).or ((datetime? s).or ((float? s).or (integer? s)))

/-- The characters of words. -/
def isWordChar (c : Char) : Bool :=
  c.isAlphanum || c == '+' || c == '-' || c == '.' || c == '_' || c == ':'

/-- Splits a word off a text. A date is continued by a time after one blank. -/
def takeWord (s : List Char) : List Char × List Char :=
  let word := s.takeWhile isWordChar
  match s.dropWhile isWordChar with
  | ' ' :: c :: rest =>
    if isDate word && c.isDigit then
      (word ++ ' ' :: (c :: rest).takeWhile isWordChar, (c :: rest).dropWhile isWordChar)
    else (word, ' ' :: c :: rest)
  | rest => (word, rest)

example : (ofWord? "1_000".toList).isSome ∧ (ofWord? "1__0".toList).isNone := by decide +kernel

example : (ofWord? "1979-02-29".toList).isNone := by decide +kernel

end Switchboard.Toml
