import Switchboard.Json.Number
import Switchboard.Json.Token

/-!
# From text to JSON tokens

A machine that reads a text character by character. Between tokens it skips the four blanks of
JSON; inside a string, a number or a word it gathers characters until the token ends. A number or
word ends before the first character that cannot belong to it, which is then read between tokens.
-/

namespace Switchboard.Json.Lexer

/-- Where the machine stands. The characters gathered so far are kept in reverse. -/
inductive State where
  /-- Between tokens. -/
  | between
  /-- Inside a string. -/
  | string (text : List Char)
  /-- After a backslash inside a string. -/
  | escape (text : List Char)
  /-- Inside `\uXXXX`: the high surrogate before it, the value so far, the digits still owed. -/
  | code (text : List Char) (high : Option Nat) (value owed : Nat)
  /-- After a high surrogate, which must be followed by another `\u`. -/
  | surrogate (text : List Char) (high : Nat)
  /-- After a high surrogate and a backslash. -/
  | surrogateEscape (text : List Char) (high : Nat)
  /-- Inside a number. -/
  | number (text : List Char)
  /-- Inside a word. -/
  | word (text : List Char)
  deriving DecidableEq, Repr

/-- The blanks of JSON. -/
def isBlank (c : Char) : Bool := c == ' ' || c == '\t' || c == '\n' || c == '\r'

/-- The characters of numbers. -/
def isNumberChar (c : Char) : Bool :=
  c.isDigit || c == '-' || c == '+' || c == '.' || c == 'e' || c == 'E'

/-- The characters of the three words. -/
def isWordChar (c : Char) : Bool := 'a' ≤ c && c ≤ 'z'

/-- The token of a whole word. -/
def wordToken? (text : List Char) : Option Token :=
  if text = "null".toList then some .null
  else if text = "true".toList then some (.bool true)
  else if text = "false".toList then some (.bool false)
  else none

/-- Reads a character between tokens: the token that it is, if any, and the next state. -/
def start (c : Char) : Option (List Token × State) :=
  if isBlank c then some ([], .between)
  else if c = '[' then some ([.openArray], .between)
  else if c = ']' then some ([.closeArray], .between)
  else if c = '{' then some ([.openObject], .between)
  else if c = '}' then some ([.closeObject], .between)
  else if c = ',' then some ([.comma], .between)
  else if c = ':' then some ([.colon], .between)
  else if c = '"' then some ([], .string [])
  else if c = '-' ∨ c.isDigit then some ([], .number [c])
  else if isWordChar c then some ([], .word [c])
  else none

/-- The character that a backslash and a letter stand for. -/
def escaped? (c : Char) : Option Char :=
  if c = '"' ∨ c = '\\' ∨ c = '/' then some c
  else if c = 'b' then some '\x08'
  else if c = 'f' then some '\x0c'
  else if c = 'n' then some '\n'
  else if c = 'r' then some '\r'
  else if c = 't' then some '\t'
  else none

/-- What a complete `\uXXXX` does. A surrogate counts only in a pair of a high and a low one. -/
def code? (text : List Char) (high : Option Nat) (value : Nat) : Option State :=
  let isHigh := 0xD800 ≤ value && value ≤ 0xDBFF
  let isLow := 0xDC00 ≤ value && value ≤ 0xDFFF
  match high with
  | some high =>
    if isLow then
      some (.string (Char.ofNat (0x10000 + (high - 0xD800) * 0x400 + (value - 0xDC00)) :: text))
    else none
  | none =>
    if isHigh then some (.surrogate text value)
    else if isLow then none
    else some (.string (Char.ofNat value :: text))

/-- Reads one character. -/
def step (c : Char) : State → Option (List Token × State)
  | .between => start c
  | .string text =>
    if c = '"' then some ([.string (String.ofList text.reverse)], .between)
    else if c = '\\' then some ([], .escape text)
    else if c.toNat < 0x20 then none
    else some ([], .string (c :: text))
  | .escape text =>
    if c = 'u' then some ([], .code text none 0 4)
    else (escaped? c).map fun e => ([], .string (e :: text))
  | .code text high value owed =>
    (Decimal.digitIn? 16 c).bind fun digit =>
      let value := value * 16 + digit
      if owed = 1 then (code? text high value).map fun state => ([], state)
      else some ([], .code text high value (owed - 1))
  | .surrogate text high => if c = '\\' then some ([], .surrogateEscape text high) else none
  | .surrogateEscape text high => if c = 'u' then some ([], .code text (some high) 0 4) else none
  | .number text =>
    if isNumberChar c then some ([], .number (c :: text))
    else
      (Number.ofText? text.reverse).bind fun n =>
        (start c).map fun (out, state) => (.number n :: out, state)
  | .word text =>
    if isWordChar c then some ([], .word (c :: text))
    else
      (wordToken? text.reverse).bind fun token =>
        (start c).map fun (out, state) => (token :: out, state)

/-- What the end of the text adds. -/
def finish : State → Option (List Token)
  | .between => some []
  | .number text => (Number.ofText? text.reverse).map fun n => [.number n]
  | .word text => (wordToken? text.reverse).map fun token => [token]
  | _ => none

/-- Reads a text from a state to its end. -/
def runFrom : State → List Char → Option (List Token)
  | state, [] => finish state
  | state, c :: rest =>
    (step c state).bind fun (out, state) => (runFrom state rest).map (out ++ ·)

end Lexer

/-- The tokens of a text, if it consists of tokens and blanks. -/
def tokenize (s : List Char) : Option (List Token) := Lexer.runFrom .between s

end Switchboard.Json
