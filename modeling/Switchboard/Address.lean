import Switchboard.Error
import Switchboard.Text.Split

/-!
# Addresses

Texts that name a device on a network: IPv4 addresses, four decimal numbers between dots, and IPv6
addresses, eight groups of hexadecimal digits between colons. In an IPv6 address a double colon
stands, once, for one or more groups of zeros, and the last two groups may be written as an IPv4
address. An address is kept as it was typed.
-/

namespace Switchboard.Address

/-- One number of an IPv4 address: up to 255, without leading zeros. -/
def isOctet (s : List Char) : Bool :=
  !s.isEmpty && s.all Char.isDigit && s.length ≤ 3 && (s.head? != some '0' || s.length == 1) &&
    Decimal.natOf s ≤ 255

/-- An IPv4 address. -/
def isIPv4 (s : List Char) : Bool :=
  let parts := Text.splitOn '.' s
  parts.length == 4 && parts.all isOctet

/-- One group of an IPv6 address: one to four hexadecimal digits. -/
def isGroup (s : List Char) : Bool :=
  !s.isEmpty && s.length ≤ 4 && s.all fun c => (Decimal.digitIn? 16 c).isSome

/-- How many groups a part of an IPv6 address stands for, when all its pieces are groups. -/
def groups? (s : List Char) : Option Nat :=
  if s.isEmpty then some 0
  else
    let parts := Text.splitOn ':' s
    if parts.all isGroup then some parts.length else none

/-- How many groups the end of an IPv6 address stands for; an IPv4 address there counts as two. -/
def groupsAtEnd? (s : List Char) : Option Nat :=
  if s.isEmpty then some 0
  else
    let parts := Text.splitOn ':' s
    let last := parts.getLastD []
    if isIPv4 last then
      if parts.dropLast.all isGroup then some (parts.length + 1) else none
    else groups? s

/-- An IPv6 address. -/
def isIPv6 (s : List Char) : Bool :=
  match Text.cutAtDouble? ':' s with
  | none => groupsAtEnd? s == some 8
  | some (head, tail) =>
    match groups? head, groupsAtEnd? tail with
    | some m, some n => m + n ≤ 7
    | _, _ => false

/-- An address. -/
def IsAddress (s : String) : Prop := isIPv4 s.toList || isIPv6 s.toList

instance (s : String) : Decidable (IsAddress s) := inferInstanceAs (Decidable (_ = true))

/-- Reads an address. -/
def parse (value : String) : Except UsageError String :=
  if IsAddress value then .ok value
  else .error (.invalidAddress value "invalid IP address syntax")

example : IsAddress "::ffff:10.0.0.5" := by decide

example : ¬ IsAddress "1:2:3:4:5:6:7:8::" := by decide

end Switchboard.Address
