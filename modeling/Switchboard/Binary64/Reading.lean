import Switchboard.Binary64
import Switchboard.Decimal

/-!
# Decimal numerals as floating-point numbers

Two rules by which a numeral denotes a number of the format. The exact rule takes the number
nearest to the numeral's value. The scaled rule, which JSON texts are read by, keeps the digits
that fit 64 bits and scales them by a power of ten that is itself rounded; it may miss the nearest
number by a little.
-/

namespace Switchboard.Binary64

open Decimal

/-- The number nearest to `digits * 10 ^ exponent`. Values far beyond the range are told by their
magnitude alone, so that no huge power is ever computed. -/
def ofDecimal (negative : Bool) (digits : Nat) (exponent : Int) : Binary64 :=
  let magnitude : Int := exponent + (Decimal.ofNat digits).length
  if digits = 0 then zero negative
  else if magnitude > 310 then .infinite negative
  else if magnitude < -330 then zero negative
  else ofRatio negative (digits * Nat.pow 10 exponent.toNat) (Nat.pow 10 (-exponent).toNat)

/-! ## The exact rule -/

/-- The number nearest to what a numeral denotes. -/
def nearest (n : Numeral) : Binary64 :=
  let fraction := n.fraction.getD []
  ofDecimal n.isNegative (natOf (n.whole ++ fraction)) (n.exponent.getD 0 - fraction.length)

/-- Why a text is not a floating-point number. -/
inductive Fault where
  | empty
  | invalid
  deriving DecidableEq, Repr

/-- The names of the numbers that have no numeral, in lower case. -/
def named? (s : List Char) : Option Binary64 :=
  let s := s.map Char.toLower
  if s = "inf".toList ∨ s = "infinity".toList then some (.infinite false)
  else if s = "nan".toList then some .nan
  else none

/-- A floating-point number as a user may write it: an optional sign, then a name or a numeral with
at least one digit in its whole part or its fraction. -/
def parse (s : List Char) : Except Fault Binary64 :=
  if s.isEmpty then .error .empty
  else
    let (sign, rest) := takeSign s
    match named? rest with
    | some x => .ok (if sign = .minus then x.neg else x)
    | none =>
      match numeral? s with
      | some n =>
        if n.whole.isEmpty && (n.fraction.getD []).isEmpty then .error .invalid
        else .ok (nearest n)
      | none => .error .invalid

/-! ## The scaled rule -/

/-- Takes digits into a significand until the next one would break the limit: the significand, how
many digits were taken, and how many were not. -/
def takeDigits (significand taken : Nat) : List Char → Nat × Nat × Nat
  | [] => (significand, taken, 0)
  | c :: rest =>
    let next := significand * 10 + (c.toNat - '0'.toNat)
    if next > greatestNat64 then (significand, taken, rest.length + 1)
    else takeDigits next (taken + 1) rest

/-- The number nearest to a power of ten. -/
def powerOfTen (n : Nat) : Binary64 := ofRatio false (Nat.pow 10 n) 1

/-- Divides by `10 ^ n`, at most `10 ^ 308` at a time. -/
def divByPower (x : Binary64) (n : Nat) : Binary64 :=
  if x.isZero then x
  else if n ≤ 308 then x.divFinite (powerOfTen n)
  else divByPower (x.divFinite (powerOfTen 308)) (n - 308)
termination_by n

/-- A significand scaled by a power of ten, unless that leaves the range of finite numbers. -/
def scale? (significand : Nat) (exponent : Int) : Option Binary64 :=
  let x := ofRatio false significand 1
  if exponent < 0 then some (divByPower x (-exponent).toNat)
  else if significand = 0 then some x
  else if exponent ≤ 308 then
    some (x.mulFinite (powerOfTen exponent.toNat)) |>.filter isFinite
  else none

/-- What a numeral denotes by the scaled rule; none when that is too large. -/
def scaled? (n : Numeral) : Option Binary64 :=
  let (significand, _, skipped) := takeDigits 0 0 n.whole
  let (significand, taken, _) := takeDigits significand 0 (n.fraction.getD [])
  let exponent : Int := skipped - taken + n.exponent.getD 0
  (scale? significand exponent).map fun x => if n.isNegative then x.neg else x

end Switchboard.Binary64
