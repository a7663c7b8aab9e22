import Switchboard.Error
import Switchboard.Json.Reader
import Switchboard.Literal.Lexeme
import Switchboard.Text.Blank

/-!
# Literals

A JSON value as a user may type it: as JSON, or with the spellings `True`, `False` and `None`,
strings in single quotes, round brackets for arrays, a comma before a closing bracket, underscores
inside numbers, and whole numbers in the bases 16, 8 and 2.

A text is first read as JSON. Only if it is none is it loosened, which rewrites its lexemes to JSON
and leaves it to the reader of JSON whether they make a value.
-/

namespace Switchboard.Literal

/-- Whether a character closes a bracket. -/
def closes (c : Char) : Bool := c == ']' || c == '}' || c == ')'

/-- Whether a closing bracket comes next, after any blanks. -/
def closesNext : List Lexeme → Bool
  | .mark c :: rest => closes c || (Text.isBlank c && closesNext rest)
  | _ => false

/-- Drops the commas that have a closing bracket after them. -/
def dropTrailingCommas : List Lexeme → List Lexeme
  | [] => []
  | lexeme :: rest =>
    if lexeme = .mark ',' ∧ closesNext rest then dropTrailingCommas rest
    else lexeme :: dropTrailingCommas rest

/-- The JSON text that a loose spelling stands for. -/
def loosen? (s : List Char) : Option (List Char) :=
  (lexemes? (Text.trim s)).bind fun lexemes =>
    ((dropTrailingCommas lexemes).mapM Lexeme.text?).map List.flatten

/-- The value of a literal. -/
def value? (s : List Char) : Option Json :=
  (Json.parse? s).or ((loosen? s).bind Json.parse?)

/-- Reads a literal. -/
def parse (text : String) : Except UsageError Json :=
  match value? text.toList with
  | some v => .ok v
  | none => .error (.malformedLiteral text)

end Switchboard.Literal
