import Switchboard.Pattern.Atom
import Switchboard.Pattern.Mode

/-!
# Sets of characters

What a pattern writes in square brackets: characters, ranges, classes with a name, sets inside
sets, and sets combined by operators. The members of a set are kept as they decide whether the set
can be matched; which class a name or a letter means does not.
-/

namespace Switchboard.Pattern

/-- A set of characters. -/
inductive CharSet where
  | empty
  | symbol (s : Symbol)
  | range (first last : Symbol)
  /-- A class with a letter of its own. -/
  | shorthand (negated : Bool)
  /-- A class with a name, whose members are characters of ASCII. -/
  | named (negated : Bool)
  | bracketed (negated : Bool) (set : CharSet)
  /-- Several sets side by side. -/
  | union (sets : List CharSet)
  /-- Two sets with an operator between them. -/
  | combined (left right : CharSet)

namespace CharSet

/-- The set of some members. -/
def ofMembers : List CharSet → CharSet
  | [] => empty
  | [set] => set
  | sets => union sets

/-- The range from one atom to another; both must be characters, in order. -/
def range? : Atom → Atom → Option CharSet
  | .symbol first, .symbol last =>
    if first.char ≤ last.char then some (.range first last) else none
  | _, _ => none

/-- The set that an atom stands for. -/
def ofAtom? : Atom → Option CharSet
  | .symbol s => some (.symbol s)
  | .shorthand negated => some (.shorthand negated)
  | _ => none

mutual

/-- How deep sets are nested. -/
def depth : CharSet → Nat
  | bracketed _ set => set.depth + 1
  | union sets => greatestDepth sets + 1
  | combined left right => max left.depth right.depth + 1
  | _ => 0

/-- The greatest depth among sets. -/
def greatestDepth : List CharSet → Nat
  | [] => 0
  | set :: sets => max set.depth (greatestDepth sets)

end

/-- Whether a character may be a member. Of characters there is no table of cases, and of bytes
only those that are characters by themselves. -/
def allowsMember (modes : Modes) (s : Symbol) : Bool :=
  if modes.unicode then !modes.ignoreCase else s.char.toNat < 0x80

mutual

/-- Whether a set can be matched. There is no table of the characters that are digits, blanks or
parts of words, and a set of bytes must not hold bytes that are no characters by themselves. -/
def isMatchable (modes : Modes) : CharSet → Bool
  | empty => true
  | symbol s => allowsMember modes s
  | range first last => allowsMember modes first && allowsMember modes last
  | shorthand negated => !modes.unicode && !negated
  | named negated => if modes.unicode then !modes.ignoreCase else !negated
  | bracketed negated set => (modes.unicode || !negated) && set.isMatchable modes
  | union sets => areMatchable modes sets
  | combined left right => left.isMatchable modes && right.isMatchable modes

/-- Whether all of some sets can be matched. -/
def areMatchable (modes : Modes) : List CharSet → Bool
  | [] => true
  | set :: sets => set.isMatchable modes && areMatchable modes sets

end

end CharSet

end Switchboard.Pattern
