import Switchboard.Json.Printer

/-!
# Lexemes of loose literals

The pieces of a literal in its loose spelling: strings in either kind of quotes, numbers, words, and
every other character by itself, blanks included. Each lexeme has a text in JSON, except a word that
is none of the three and a number that its own base does not allow.
-/

namespace Switchboard.Literal

/-- A piece of a literal. -/
inductive Lexeme where
  /-- A string, by its content. -/
  | string (content : List Char)
  /-- A number, as written. -/
  | number (text : List Char)
  /-- A word, as written. -/
  | word (text : List Char)
  /-- Any other character. -/
  | mark (c : Char)
  deriving DecidableEq, Repr

/-- Where the reader of lexemes stands. The characters gathered so far are kept in reverse. -/
inductive State where
  /-- Between lexemes. -/
  | between
  /-- Inside a string that ends with `quote`. -/
  | string (quote : Char) (content : List Char)
  /-- After a backslash inside a string. -/
  | escape (quote : Char) (content : List Char)
  /-- Inside a number. -/
  | number (text : List Char)
  /-- Inside a word. -/
  | word (text : List Char)
  deriving DecidableEq, Repr

/-- Whether the number gathered so far, in reverse, begins as a hexadecimal one. -/
def isHexadecimal (text : List Char) : Bool :=
  let start := text.reverse.take 2
  start == ['0', 'x'] || start == ['0', 'X']

/-- Whether a character belongs to the number gathered so far. A sign does right after the mark of
an exponent, which a hexadecimal number does not have. -/
def continuesNumber (text : List Char) (c : Char) : Bool :=
  c.isAlphanum || c == '_' || c == '.' ||
    ((c == '+' || c == '-') && (text.head? == some 'e' || text.head? == some 'E') &&
      !isHexadecimal text)

/-- Whether a character belongs to a word that has begun. -/
def continuesWord (c : Char) : Bool := c.isAlphanum || c == '_'

/-- Reads a character between lexemes. -/
def start (c : Char) : List Lexeme × State :=
  if c = '\'' ∨ c = '"' then ([], .string c [])
  else if c.isDigit then ([], .number [c])
  else if c.isAlpha then ([], .word [c])
  else ([.mark c], .between)

/-- Reads one character. A backslash inside a string stands for the character after it. -/
def step (c : Char) : State → List Lexeme × State
  | .between => start c
  | .string quote content =>
    if c = '\\' then ([], .escape quote content)
    else if c = quote then ([.string content.reverse], .between)
    else ([], .string quote (c :: content))
  | .escape quote content => ([], .string quote (c :: content))
  | .number text =>
    if continuesNumber text c then ([], .number (c :: text))
    else
      let (out, state) := start c
      (.number text.reverse :: out, state)
  | .word text =>
    if continuesWord c then ([], .word (c :: text))
    else
      let (out, state) := start c
      (.word text.reverse :: out, state)

/-- What the end of the text adds; a string must have ended before. -/
def finish : State → Option (List Lexeme)
  | .between => some []
  | .number text => some [.number text.reverse]
  | .word text => some [.word text.reverse]
  | .string .. => none
  | .escape .. => none

/-- Reads a text from a state to its end. -/
def lexemesFrom : State → List Char → Option (List Lexeme)
  | state, [] => finish state
  | state, c :: rest =>
    let (out, state) := step c state
    (lexemesFrom state rest).map (out ++ ·)

/-- The lexemes of a text, if its strings end. -/
def lexemes? (s : List Char) : Option (List Lexeme) := lexemesFrom .between s

/-! ## Texts of lexemes in JSON -/

/-- The base that a number's first two characters name. -/
def base? : List Char → Option Nat
  | '0' :: 'x' :: _ => some 16
  | '0' :: 'X' :: _ => some 16
  | '0' :: 'o' :: _ => some 8
  | '0' :: 'O' :: _ => some 8
  | '0' :: 'b' :: _ => some 2
  | '0' :: 'B' :: _ => some 2
  | _ => none

/-- A number in JSON: underscores are dropped, and a number in a base of its own is put in
decimal. -/
def numberText? (text : List Char) : Option (List Char) :=
  let text := text.filter (· ≠ '_')
  match base? text with
  | none => some text
  | some base =>
    let isSmall := fun (n : Nat) => decide (n ≤ Decimal.greatestInt64)
    ((Decimal.natIn? base (text.drop 2)).filter isSmall).map Decimal.ofNat

/-- A word in JSON. -/
def wordText? (text : List Char) : Option (List Char) :=
  if text = "True".toList then some "true".toList
  else if text = "False".toList then some "false".toList
  else if text = "None".toList then some "null".toList
  else none

/-- A character in JSON; round brackets become square ones. -/
def markText (c : Char) : Char :=
  if c = '(' then '[' else if c = ')' then ']' else c

/-- A lexeme in JSON. -/
def Lexeme.text? : Lexeme → Option (List Char)
  | .string content => some (Json.quote content)
  | .number text => numberText? text
  | .word text => wordText? text
  | .mark c => some [markText c]

end Switchboard.Literal
