import Switchboard.Decimal

/-!
# Texts in TOML documents

Strings in their four forms, read after their opening quotes: with escapes in double quotes, without
in single ones, and each of them in one line or, in quotes that are written three times, in several.
In several lines up to two quotes may stand before the closing ones, and a backslash at the end of a
line passes over all blanks that follow.
-/

namespace Switchboard.Toml

/-- The blanks inside a line. -/
def isBlank (c : Char) : Bool := c == ' ' || c == '\t'

/-- The characters that may stand for themselves in strings and comments. -/
def isTextChar (c : Char) : Bool := c == '\t' || (0x20 ≤ c.toNat && c.toNat != 0x7F)

/-- The form of a string. -/
structure Quoting where
  quote : Char
  hasEscapes : Bool
  hasLines : Bool

/-- Where the reader of a string stands. -/
inductive StringState where
  /-- In the text, after so many quotes that may close it. -/
  | text (quotes : Nat)
  /-- After a backslash. -/
  | escape
  /-- In the digits of a code point, of which some are still owed. -/
  | code (value owed : Nat)
  /-- After a backslash and blanks, before the end of the line. -/
  | lineEnd
  /-- In the blanks after such a line. -/
  | skipping

/-- What reading one character of a string leads to. The text is kept in reverse. -/
inductive Progress where
  | more (state : StringState) (text : List Char)
  /-- The string ended with the character. -/
  | ended (text : List Char)
  /-- The string ended before the character. -/
  | endedBefore (text : List Char)

/-- Quotes that do not close a string, in front of its text so far. -/
def withQuotes (q : Quoting) (n : Nat) (text : List Char) : List Char :=
  List.replicate n q.quote ++ text

/-- Reads a character of the text. -/
def textStep (q : Quoting) (quotes : Nat) (text : List Char) (c : Char) : Option Progress :=
  if c = q.quote then
    if !q.hasLines then some (.ended text)
    else if quotes = 5 then none
    else some (.more (.text (quotes + 1)) text)
  else if quotes ≥ 3 then some (.endedBefore (withQuotes q (quotes - 3) text))
  else
    let text := withQuotes q quotes text
    if c = '\\' ∧ q.hasEscapes then some (.more .escape text)
    else if isTextChar c ∨ (c = '\n' ∧ q.hasLines) then some (.more (.text 0) (c :: text))
    else none

/-- The character that a backslash and a letter stand for. -/
def escaped? (c : Char) : Option Char :=
  if c = '"' ∨ c = '\\' then some c
  else if c = 'b' then some '\x08'
  else if c = 'f' then some '\x0c'
  else if c = 'n' then some '\n'
  else if c = 'r' then some '\r'
  else if c = 't' then some '\t'
  else none

/-- Reads the character after a backslash. -/
def escapeStep (q : Quoting) (text : List Char) (c : Char) : Option Progress :=
  match escaped? c with
  | some e => some (.more (.text 0) (e :: text))
  | none =>
    if c = 'u' then some (.more (.code 0 4) text)
    else if c = 'U' then some (.more (.code 0 8) text)
    else if !q.hasLines then none
    else if c = '\n' then some (.more .skipping text)
    else if isBlank c then some (.more .lineEnd text)
    else none

/-- Reads a digit of a code point; in the end it must be that of a character. -/
def codeStep (value owed : Nat) (text : List Char) (c : Char) : Option Progress :=
  (Decimal.digitIn? 16 c).bind fun digit =>
    let value := value * 16 + digit
    if owed > 1 then some (.more (.code value (owed - 1)) text)
    else if value.isValidChar then some (.more (.text 0) (Char.ofNat value :: text))
    else none

/-- Reads a character. -/
def stringStep (q : Quoting) (text : List Char) (c : Char) : StringState → Option Progress
  | .text quotes => textStep q quotes text c
  | .escape => escapeStep q text c
  | .code value owed => codeStep value owed text c
  | .lineEnd =>
    if c = '\n' then some (.more .skipping text)
    else if isBlank c then some (.more .lineEnd text)
    else none
  | .skipping =>
    if c = '\n' ∨ isBlank c then some (.more .skipping text) else textStep q 0 text c

/-- Reads a string from a state: its text, and what follows it. -/
def stringFrom (q : Quoting) : StringState → List Char → List Char → Option (String × List Char)
  | .text quotes, text, [] =>
    if quotes ≥ 3 then some (String.ofList (withQuotes q (quotes - 3) text).reverse, []) else none
  | _, _, [] => none
  | state, text, c :: rest =>
    match stringStep q text c state with
    | none => none
    | some (.more state text) => stringFrom q state text rest
    | some (.ended text) => some (String.ofList text.reverse, rest)
    | some (.endedBefore text) => some (String.ofList text.reverse, c :: rest)

/-- A line feed right after the opening quotes does not count. -/
def dropLineFeed : List Char → List Char
  | '\n' :: rest => rest
  | s => s

/-- A string in one line. -/
def lineString? : List Char → Option (String × List Char)
  | '"' :: rest => stringFrom ⟨'"', true, false⟩ (.text 0) [] rest
  | '\'' :: rest => stringFrom ⟨'\'', false, false⟩ (.text 0) [] rest
  | _ => none

/-- A string in any form. -/
def string? : List Char → Option (String × List Char)
  | '"' :: '"' :: '"' :: rest => stringFrom ⟨'"', true, true⟩ (.text 0) [] (dropLineFeed rest)
  | '\'' :: '\'' :: '\'' :: rest =>
    stringFrom ⟨'\'', false, true⟩ (.text 0) [] (dropLineFeed rest)
  | s => lineString? s

end Switchboard.Toml
