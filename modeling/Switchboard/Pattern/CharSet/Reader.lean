import Switchboard.Pattern.CharSet

/-!
# Reading a set of characters

A machine with a stack of open brackets. Right after an opening bracket, and a caret if there is
one, dashes are members; so is a closing bracket if nothing stands before it. The operators are
read from left to right, and each takes all members up to the next one.
-/

namespace Switchboard.Pattern.CharSet

/-- A set whose closing bracket is still to come. -/
structure OpenSet where
  negated : Bool
  /-- Whether a dash is a member, whatever follows it. -/
  isFresh : Bool
  /-- What is on the left of the last operator. -/
  left : Option CharSet
  /-- The members after that, latest first. -/
  members : List CharSet

namespace OpenSet

/-- A set without members so far. -/
def start (negated : Bool) : OpenSet := ⟨negated, true, none, []⟩

/-- Adds a member. -/
def add (set : OpenSet) (member : CharSet) : OpenSet :=
  { set with isFresh := false, members := member :: set.members }

/-- The set as it would be if it were closed here. -/
def value (set : OpenSet) : CharSet :=
  let right := ofMembers set.members.reverse
  match set.left with
  | none => right
  | some left => .combined left right

/-- The set after an operator. -/
def afterOperator (set : OpenSet) : OpenSet := ⟨set.negated, false, some set.value, []⟩

/-- Whether a character is a member because of its place. -/
def admits (set : OpenSet) (c : Char) : Bool :=
  set.isFresh && (c == '-' || (c == ']' && set.members.isEmpty))

/-- Adds a character that is a member because of its place. -/
def addFresh (set : OpenSet) (c : Char) : OpenSet :=
  { set.add (.symbol ⟨c, false⟩) with isFresh := c = '-' }

end OpenSet

/-- The names of classes. -/
def classNames : List String :=
  ["alnum", "alpha", "ascii", "blank", "cntrl", "digit", "graph", "lower", "print", "punct",
    "space", "upper", "word", "xdigit"]

/-- Reads a caret, which negates what follows. -/
def negation : List Char → Bool × List Char
  | '^' :: rest => (true, rest)
  | s => (false, s)

/-- Reads a class with a name, after its bracket: whether it is negated, and what follows. -/
def named? : List Char → Option (Bool × List Char)
  | ':' :: rest =>
    let (negated, rest) := negation rest
    match rest.dropWhile (· != ':') with
    | ':' :: ']' :: after =>
      if classNames.contains (String.ofList (rest.takeWhile (· != ':'))) then some (negated, after)
      else none
    | _ => none
  | _ => none

/-- The character that decides on a dash in front of it. Where blanks are ignored it is the next
that is none, or that follows one number sign; without such a one it is the very next. -/
def deciding? (ignoresBlanks : Bool) (s : List Char) : Option Char :=
  if ignoresBlanks then
    let found :=
      match s.dropWhile Text.isBlank with
      | '#' :: rest => rest.dropWhile Text.isBlank
      | rest => rest
    found.head?.or s.head?
  else s.head?

/-- Whether a dash in front of a text is not that of a range. -/
def endsRange (ignoresBlanks : Bool) (s : List Char) : Bool :=
  [some ']', some '-'].contains (deciding? ignoresBlanks s)

/-- Reads a member: an atom, or a range from one to another. -/
def member? (ignoresBlanks : Bool) (s : List Char) : Option (CharSet × List Char) :=
  (Atom.read? ignoresBlanks s).bind fun (first, rest) =>
    match skipIgnored ignoresBlanks rest with
    | '-' :: after =>
      if endsRange ignoresBlanks after then (ofAtom? first).map (·, '-' :: after)
      else
        (Atom.read? ignoresBlanks (skipIgnored ignoresBlanks after)).bind fun (last, rest) =>
          (range? first last).map (·, rest)
    | rest => (ofAtom? first).map (·, rest)

/-- Whether a text begins with an operator, which is a mark written twice. -/
def isOperator (c : Char) (rest : List Char) : Bool :=
  (c == '&' || c == '-' || c == '~') && rest.head? == some c

/-- What reading a piece of a set leads to. -/
inductive Progress where
  | more (set : OpenSet) (outer : List OpenSet)
  /-- The outermost set ended with the piece. -/
  | ended (negated : Bool) (set : CharSet)

/-- Closes the innermost set. -/
def close (set : OpenSet) : List OpenSet → Progress
  | [] => .ended set.negated set.value
  | outer :: rest => .more (outer.add (.bracketed set.negated set.value)) rest

/-- Reads a piece of a set, which begins with the character `c`. -/
def step? (ignoresBlanks : Bool) (set : OpenSet) (outer : List OpenSet) (c : Char)
    (rest : List Char) : Option (Progress × List Char) :=
  if set.admits c then some (.more (set.addFresh c) outer, rest)
  else if c = '[' then
    match named? rest with
    | some (negated, rest) => some (.more (set.add (.named negated)) outer, rest)
    | none =>
      let (negated, rest) := negation (skipIgnored ignoresBlanks rest)
      some (.more (.start negated) (set :: outer), rest)
  else if c = ']' then some (close set outer, rest)
  else if isOperator c rest then some (.more set.afterOperator outer, rest.tail)
  else
    (member? ignoresBlanks (c :: rest)).map fun (member, rest) =>
      (.more (set.add member) outer, rest)

/-- Reads the rest of a set, which has fewer characters than the fuel. -/
def readFrom? (ignoresBlanks : Bool) :
    Nat → OpenSet → List OpenSet → List Char → Option (Bool × CharSet × List Char)
  | 0, _, _, _ => none
  | fuel + 1, set, outer, s =>
    match skipIgnored ignoresBlanks s with
    | [] => none
    | c :: rest =>
      match step? ignoresBlanks set outer c rest with
      | some (.more set outer, rest) => readFrom? ignoresBlanks fuel set outer rest
      | some (.ended negated set, rest) => some (negated, set, rest)
      | none => none

/-- Reads a set after its opening bracket: whether it is negated, what it is, and what follows. -/
def read? (ignoresBlanks : Bool) (s : List Char) : Option (Bool × CharSet × List Char) :=
  let (negated, rest) := negation (skipIgnored ignoresBlanks s)
  readFrom? ignoresBlanks (rest.length + 1) (.start negated) [] rest

end Switchboard.Pattern.CharSet
