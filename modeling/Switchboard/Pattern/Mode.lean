/-!
# Modes of a pattern

A pattern can switch modes on and off, for the rest of a group by `(?i-u)` or for a group of its own
by `(?i-u:…)`. The letters after the dash are switched off. Each mode may be named once.
-/

namespace Switchboard.Pattern

/-- What can be switched. -/
inductive Mode where
  /-- Letters stand for their other case too. -/
  | ignoreCase
  /-- The anchors of a line stand at every line. -/
  | lines
  /-- A dot stands for line feeds too. -/
  | dotAll
  /-- Repetitions are lazy unless marked. -/
  | lazy
  /-- The pattern speaks of characters, not of bytes. -/
  | unicode
  /-- Lines end in a carriage return and a line feed. -/
  | lineEnds
  /-- Blanks and comments do not count. -/
  | ignoreBlanks
  deriving DecidableEq, Repr

/-- The mode that a letter switches. -/
def Mode.ofLetter? (c : Char) : Option Mode :=
  [('i', ignoreCase), ('m', lines), ('s', dotAll), ('U', lazy), ('u', unicode), ('R', lineEnds),
    ('x', ignoreBlanks)].lookup c

/-- The modes that are switched, each with whether it is on from here. -/
abbrev ModeChanges := List (Mode × Bool)

namespace ModeChanges

/-- Whether a mode is on after the changes, if it was `before` them. -/
def apply (changes : ModeChanges) (mode : Mode) (before : Bool) : Bool :=
  (changes.lookup mode).getD before

/-- Reads the letters of modes, of which those in front of a dash are switched `isOn`. -/
def ofLetters? (isOn : Bool) : List Char → Option ModeChanges
  | [] => some []
  | ['-'] => none
  | '-' :: rest => if isOn then ofLetters? false rest else none
  | c :: rest =>
    (Mode.ofLetter? c).bind fun mode => (ofLetters? isOn rest).bind fun changes =>
      if changes.any (·.1 = mode) then none else some ((mode, isOn) :: changes)

end ModeChanges

/-- The modes that decide which patterns can be matched. -/
structure Modes where
  ignoreCase : Bool
  unicode : Bool
  deriving DecidableEq, Repr

namespace Modes

/-- The modes at the start of a pattern. -/
def initial : Modes := ⟨false, true⟩

/-- The modes after some changes. -/
def switch (modes : Modes) (changes : ModeChanges) : Modes :=
  ⟨changes.apply .ignoreCase modes.ignoreCase, changes.apply .unicode modes.unicode⟩

end Modes

example : ModeChanges.ofLetters? true "i-ux".toList =
    some [(.ignoreCase, true), (.unicode, false), (.ignoreBlanks, false)] := by decide

example : ModeChanges.ofLetters? true "i-i".toList = none := by decide

end Switchboard.Pattern
