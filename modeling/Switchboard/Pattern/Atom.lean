import Switchboard.Decimal
import Switchboard.Text.Blank

/-!
# Atoms of a pattern

The least pieces of a pattern: a character by itself, and what a backslash makes of the characters
after it. A character can also be given by its code, in two, four or eight hexadecimal digits.
-/

namespace Switchboard.Pattern

/-- A character that stands for itself, and whether it was given as a byte, in two digits. -/
structure Symbol where
  char : Char
  isByte : Bool
  deriving DecidableEq, Repr

/-- A least piece of a pattern. -/
inductive Atom where
  | symbol (s : Symbol)
  /-- A class with a letter of its own: digits, blanks, or what words are made of. -/
  | shorthand (negated : Bool)
  /-- The start or the end of the text. -/
  | anchor
  /-- A place where a word begins or ends, or where none does. -/
  | wordEdge
  deriving DecidableEq, Repr

/-- Passes over blanks and comments. A comment goes from a number sign to the end of its line. -/
def skipComments (inComment : Bool) : List Char → List Char
  | [] => []
  | c :: rest =>
    if inComment then skipComments (c != '\n') rest
    else if Text.isBlank c then skipComments false rest
    else if c = '#' then skipComments true rest
    else c :: rest

/-- Passes over what does not count. -/
def skipIgnored (ignoresBlanks : Bool) (s : List Char) : List Char :=
  if ignoresBlanks then skipComments false s else s

namespace Atom

/-- Reads the digits of a code, of which some are still owed. -/
def code? (ignoresBlanks : Bool) : Nat → Nat → List Char → Option (Char × List Char)
  | 0, value, rest => if value.isValidChar then some (Char.ofNat value, rest) else none
  | owed + 1, value, s =>
    match skipIgnored ignoresBlanks s with
    | [] => none
    | c :: rest =>
      (Decimal.digitIn? 16 c).bind fun digit =>
        code? ignoresBlanks owed (value * 16 + digit) rest

/-- How many digits the code has that a letter begins. -/
def digitsOwed? (c : Char) : Option Nat := [('x', 2), ('u', 4), ('U', 8)].lookup c

/-- What a letter after a backslash means, if it begins no code. -/
def ofLetter? (c : Char) : Option Atom :=
  let symbol := fun char => symbol ⟨char, false⟩
  [('a', symbol '\x07'), ('f', symbol '\x0c'), ('n', symbol '\n'), ('r', symbol '\r'),
    ('t', symbol '\t'), ('v', symbol '\x0b'), ('d', shorthand false), ('s', shorthand false),
    ('w', shorthand false), ('D', shorthand true), ('S', shorthand true), ('W', shorthand true),
    ('A', anchor), ('z', anchor), ('b', wordEdge), ('B', wordEdge)].lookup c

/-- Reads what follows a backslash. Marks of ASCII stand for themselves there, except the two
brackets that are edges of words. -/
def escaped? (ignoresBlanks : Bool) : List Char → Option (Atom × List Char)
  | [] => none
  | c :: rest =>
    match digitsOwed? c with
    | some owed =>
      (code? ignoresBlanks owed 0 rest).map fun (char, rest) => (symbol ⟨char, owed = 2⟩, rest)
    | none =>
      if c = '<' ∨ c = '>' then some (wordEdge, rest)
      else if c.isAlphanum then (ofLetter? c).map (·, rest)
      else if c.toNat < 0x80 then some (symbol ⟨c, false⟩, rest)
      else none

/-- Reads an atom. -/
def read? (ignoresBlanks : Bool) : List Char → Option (Atom × List Char)
  | [] => none
  | '\\' :: rest => escaped? ignoresBlanks rest
  | c :: rest => some (symbol ⟨c, false⟩, rest)

end Atom

example : Atom.read? false "\\x4a+".toList = some (.symbol ⟨'J', true⟩, ['+']) := by decide

example : Atom.read? false "\\1".toList = none := by decide

end Switchboard.Pattern
