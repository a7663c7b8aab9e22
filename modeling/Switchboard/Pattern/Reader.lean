import Switchboard.Pattern
import Switchboard.Pattern.CharSet.Reader
import Switchboard.Text.Letter

/-!
# Reading a pattern

A machine with a stack of open groups. Groups may switch modes and may have names; names must
differ. What a group switches ends with it, as does what is switched inside it. There are no
repetitions with counts, no references to groups and no assertions about what is around.
-/

namespace Switchboard.Pattern

/-- A group whose closing bracket is still to come; the outermost is the whole pattern. -/
structure OpenGroup where
  changes : ModeChanges
  /-- Whether blanks are ignored around the group. -/
  ignoresBlanksAround : Bool
  /-- The branches before the last bar, latest first. -/
  branches : List Pattern
  /-- The patterns after that, latest first. -/
  items : List Pattern

namespace OpenGroup

/-- A group with nothing in it so far. -/
def start (changes : ModeChanges) (ignoresBlanksAround : Bool) : OpenGroup :=
  ⟨changes, ignoresBlanksAround, [], []⟩

/-- The branches, latest first, if the last one ends here. -/
def allBranches (g : OpenGroup) : List Pattern := ofItems g.items.reverse :: g.branches

/-- What is inside the group, if it ends here. -/
def body (g : OpenGroup) : Pattern := ofBranches g.allBranches.reverse

end OpenGroup

/-- Where the reader of a pattern stands. -/
structure State where
  group : OpenGroup
  /-- The groups around it, innermost first. -/
  outer : List OpenGroup
  /-- The names of groups so far. -/
  names : List (List Char)
  ignoresBlanks : Bool

namespace State

/-- Where the reader stands first. -/
def start : State := ⟨.start [] false, [], [], false⟩

/-- Adds a pattern to the group. -/
def add (state : State) (p : Pattern) : State :=
  { state with group := { state.group with items := p :: state.group.items } }

/-- Begins another branch. -/
def nextBranch (state : State) : State :=
  { state with group := { state.group with branches := state.group.allBranches, items := [] } }

/-- Repeats the last pattern; there must be one. -/
def repeatLast? (state : State) : Option State :=
  match state.group.items with
  | [] => none
  | p :: items =>
    if p.isSwitch then none
    else some { state with group := { state.group with items := .repeated p :: items } }

/-- Opens a group. -/
def openGroup (state : State) (changes : ModeChanges) : State where
  group := .start changes state.ignoresBlanks
  outer := state.group :: state.outer
  names := state.names
  ignoresBlanks := changes.apply .ignoreBlanks state.ignoresBlanks

/-- Closes a group; one must be open. -/
def closeGroup? (state : State) : Option State :=
  match state.outer with
  | [] => none
  | around :: outer =>
    let closed := { state with
      group := around
      outer := outer
      ignoresBlanks := state.group.ignoresBlanksAround }
    some (closed.add (.group state.group.changes state.group.body))

/-- Switches modes for the rest of the group. -/
def switchModes (state : State) (changes : ModeChanges) : State :=
  { state.add (.switch changes) with
    ignoresBlanks := changes.apply .ignoreBlanks state.ignoresBlanks }

end State

/-- Whether a text is a name for a group. -/
def isGroupName : List Char → Bool
  | [] => false
  | c :: rest =>
    (c == '_' || Text.isLetter c) &&
      rest.all fun c => ['_', '.', '[', ']'].contains c || Text.isAlphanumeric c

/-- Reads the start of a group after the opening bracket of its name. -/
def openNamed? (state : State) (s : List Char) : Option (State × List Char) :=
  let name := s.takeWhile (· != '>')
  match s.dropWhile (· != '>') with
  | _ :: rest =>
    if isGroupName name && !state.names.contains name then
      some ({ state.openGroup [] with names := name :: state.names }, rest)
    else none
  | [] => none

/-- Reads the letters of modes after a question mark, and what they are switched for. -/
def switchOrOpen? (state : State) (s : List Char) : Option (State × List Char) :=
  let isLetter := fun c => c != ':' && c != ')'
  (ModeChanges.ofLetters? true (s.takeWhile isLetter)).bind fun changes =>
    match s.dropWhile isLetter with
    | ':' :: rest => some (state.openGroup changes, rest)
    | ')' :: rest => if changes.isEmpty then none else some (state.switchModes changes, rest)
    | _ => none

/-- Reads what follows an opening bracket. -/
def open? (state : State) : List Char → Option (State × List Char)
  | '?' :: 'P' :: '<' :: rest => openNamed? state rest
  | '?' :: '<' :: rest => openNamed? state rest
  | '?' :: rest => switchOrOpen? state rest
  | s => some (state.openGroup [], s)

/-- Passes over the mark of a lazy repetition. -/
def skipLazyMark : List Char → List Char
  | '?' :: rest => rest
  | s => s

/-- Reads a piece of a pattern, which begins with the character `c`. -/
def step? (state : State) (c : Char) (rest : List Char) : Option (State × List Char) :=
  if c = '(' then open? state (skipIgnored state.ignoresBlanks rest)
  else if c = ')' then state.closeGroup?.map (·, rest)
  else if c = '|' then some (state.nextBranch, rest)
  else if c = '[' then
    (CharSet.read? state.ignoresBlanks rest).map fun (negated, set, rest) =>
      (state.add (.bracketed negated set), rest)
  else if c = '?' ∨ c = '*' ∨ c = '+' then state.repeatLast?.map (·, skipLazyMark rest)
  else if c = '{' then none
  else if c = '.' then some (state.add .dot, rest)
  else if c = '^' ∨ c = '$' then some (state.add .anchor, rest)
  else
    (Atom.read? state.ignoresBlanks (c :: rest)).map fun (atom, rest) =>
      (state.add (.ofAtom atom), rest)

/-- Reads the rest of a pattern, which has fewer characters than the fuel. -/
def readFrom? : Nat → State → List Char → Option Pattern
  | 0, _, _ => none
  | fuel + 1, state, s =>
    match skipIgnored state.ignoresBlanks s with
    | [] => if state.outer.isEmpty then some state.group.body else none
    | c :: rest => (step? state c rest).bind fun (state, rest) => readFrom? fuel state rest

/-- The pattern of a text, none if it is malformed or cannot be matched. -/
def ofText? (s : List Char) : Option Pattern :=
  (readFrom? (s.length + 1) .start s).filter (·.isMatchable)

end Switchboard.Pattern
