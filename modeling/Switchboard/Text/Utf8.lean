/-!
# Reading UTF-8

A byte sequence read as text. Each character comes out as `some c`, and each invalid part as one
`none`, where an invalid part is as long as possible: the bytes of a character that was begun
correctly and never finished are one part, any other stray byte is a part of its own.

Strict reading wants no invalid part at all, lenient reading puts U+FFFD in the place of each.
-/

namespace Switchboard.Text.Utf8

/-- Where the reader stands between two bytes. -/
inductive State where
  /-- Between characters. -/
  | start
  /-- Inside a character: its value so far, the bytes still owed, and the range of the next one. -/
  | inside (value owed least greatest : Nat)
  deriving DecidableEq, Repr

/-- Reads the first byte of a character. -/
def first (b : Nat) : List (Option Char) × State :=
  if b < 0x80 then ([some (Char.ofNat b)], .start)
  else if 0xC2 ≤ b ∧ b ≤ 0xDF then ([], .inside (b - 0xC0) 1 0x80 0xBF)
  else if b = 0xE0 then ([], .inside 0 2 0xA0 0xBF)
  else if b = 0xED then ([], .inside 0xD 2 0x80 0x9F)
  else if 0xE1 ≤ b ∧ b ≤ 0xEF then ([], .inside (b - 0xE0) 2 0x80 0xBF)
  else if b = 0xF0 then ([], .inside 0 3 0x90 0xBF)
  else if 0xF1 ≤ b ∧ b ≤ 0xF3 then ([], .inside (b - 0xF0) 3 0x80 0xBF)
  else if b = 0xF4 then ([], .inside 4 3 0x80 0x8F)
  else ([none], .start)

/-- Reads one byte. -/
def step (b : Nat) : State → List (Option Char) × State
  | .start => first b
  | .inside value owed least greatest =>
    if least ≤ b ∧ b ≤ greatest then
      let value := value * 64 + b % 64
      if owed = 1 then ([some (Char.ofNat value)], .start)
      else ([], .inside value (owed - 1) 0x80 0xBF)
    else
      let (out, state) := first b
      (none :: out, state)

/-- Reads bytes from a state to their end. -/
def decodeFrom : State → List UInt8 → List (Option Char)
  | .start, [] => []
  | .inside .., [] => [none]
  | state, b :: rest =>
    let (out, state) := step b.toNat state
    out ++ decodeFrom state rest

/-- The characters and invalid parts of a byte sequence, in order. -/
def decode (bytes : List UInt8) : List (Option Char) := decodeFrom .start bytes

/-- The text of a byte sequence that has no invalid part. -/
def decodeStrict? (bytes : List UInt8) : Option String :=
  ((decode bytes).mapM id).map String.ofList

/-- The text of a byte sequence with U+FFFD for each invalid part. -/
def decodeLenient (bytes : List UInt8) : String :=
  String.ofList ((decode bytes).map (·.getD '\ufffd'))

example : decode [0xF0, 0x9F, 0x41, 0x80] = [none, some 'A', none] := by decide

example : decode [0xED, 0xA0, 0x80] = [none, none, none] := by decide

end Switchboard.Text.Utf8
