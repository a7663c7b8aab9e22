import Switchboard.Pattern.CharSet

/-!
# Patterns

Regular expressions, kept as they decide whether they can be matched. Two things limit that: how
deep a pattern is nested, and what there are tables for. Characters can be matched, also by range,
but there are no tables of their cases and of the characters that are digits, blanks or parts of
words. With the Unicode mode off a pattern speaks of bytes; what it matches must still be text.
-/

namespace Switchboard

/-- A pattern. -/
inductive Pattern where
  | empty
  | symbol (s : Pattern.Symbol)
  /-- Any character. -/
  | dot
  /-- The start or the end of a line or of the text. -/
  | anchor
  /-- A place where a word begins or ends, or where none does. -/
  | wordEdge
  /-- A class with a letter of its own. -/
  | shorthand (negated : Bool)
  | bracketed (negated : Bool) (set : Pattern.CharSet)
  /-- Modes that are switched for the rest of the group. -/
  | switch (changes : Pattern.ModeChanges)
  | group (changes : Pattern.ModeChanges) (body : Pattern)
  | repeated (body : Pattern)
  | sequence (items : List Pattern)
  | choice (branches : List Pattern)

namespace Pattern

/-- The pattern of an atom. -/
def ofAtom : Atom → Pattern
  | .symbol s => symbol s
  | .shorthand negated => shorthand negated
  | .anchor => anchor
  | .wordEdge => wordEdge

/-- Patterns one after the other. -/
def ofItems : List Pattern → Pattern
  | [] => empty
  | [item] => item
  | items => sequence items

/-- Patterns of which one is to match. -/
def ofBranches : List Pattern → Pattern
  | [branch] => branch
  | branches => choice branches

/-- Whether it is only modes that are switched. -/
def isSwitch : Pattern → Bool
  | switch _ => true
  | _ => false

/-! ## Nesting -/

mutual

/-- How deep a pattern is nested. -/
def depth : Pattern → Nat
  | bracketed _ set => set.depth + 1
  | group _ body => body.depth + 1
  | repeated body => body.depth + 1
  | sequence items => greatestDepth items + 1
  | choice branches => greatestDepth branches + 1
  | _ => 0

/-- The greatest depth among patterns. -/
def greatestDepth : List Pattern → Nat
  | [] => 0
  | p :: ps => max p.depth (greatestDepth ps)

end

/-- How deep a pattern may be nested. -/
def depthLimit : Nat := 250

/-! ## What can be matched -/

/-- Whether a character can be matched outside of sets. -/
def allowsSymbol (modes : Modes) (s : Symbol) : Bool :=
  if modes.unicode then !modes.ignoreCase else !s.isByte || s.char.toNat < 0x80

mutual

/-- The modes after a pattern, if it can be matched in the modes before it. -/
def modesAfter? (modes : Modes) : Pattern → Option Modes
  | empty => some modes
  | anchor => some modes
  | symbol s => if allowsSymbol modes s then some modes else none
  | dot => if modes.unicode then some modes else none
  | wordEdge => if modes.unicode then none else some modes
  | shorthand negated => if modes.unicode || negated then none else some modes
  | bracketed negated set =>
    if (CharSet.bracketed negated set).isMatchable modes then some modes else none
  | switch changes => some (modes.switch changes)
  | group changes body => (body.modesAfter? (modes.switch changes)).map fun _ => modes
  | repeated body => body.modesAfter? modes
  | sequence items => modesAfterAll? modes items
  | choice branches => modesAfterAll? modes branches

/-- The modes after patterns that stand one after the other. -/
def modesAfterAll? (modes : Modes) : List Pattern → Option Modes
  | [] => some modes
  | p :: ps => (p.modesAfter? modes).bind fun modes => modesAfterAll? modes ps

end

/-- Whether a pattern can be matched. -/
def isMatchable (p : Pattern) : Bool :=
  p.depth ≤ depthLimit && (p.modesAfter? .initial).isSome

end Pattern

end Switchboard
