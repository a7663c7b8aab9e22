import Switchboard.Json.Lexer

/-!
# From JSON tokens to a value

A machine over tokens with a stack of open arrays and objects. It knows at each point what may come
next, so a token that cannot come is refused where it stands. At most `nestingLimit` arrays and
objects may be open at a time.
-/

namespace Switchboard.Json

/-- How many arrays and objects may be open at a time. -/
def nestingLimit : Nat := 127

namespace Reader

/-- An open array or object. The items are kept in reverse. -/
inductive Frame where
  | array (items : List Json)
  | object (members : List (String × Json))
  /-- An object whose member under `key` is being read. -/
  | member (members : List (String × Json)) (key : String)
  deriving Repr

/-- What may come next. -/
inductive Expected where
  /-- A value. -/
  | value
  /-- A value, or the end of the array just opened. -/
  | valueOrEnd
  /-- A key. -/
  | key
  /-- A key, or the end of the object just opened. -/
  | keyOrEnd
  /-- The colon after a key. -/
  | colon
  /-- A comma or the end of the innermost array or object. -/
  | separator
  /-- Nothing: the text's value is complete. -/
  | nothing (value : Json)
  deriving Repr

/-- The open arrays and objects, innermost first, and what may come next. -/
structure State where
  stack : List Frame
  expected : Expected
  deriving Repr

/-- Puts a complete value where it belongs. -/
def complete (value : Json) : List Frame → Option State
  | [] => some ⟨[], .nothing value⟩
  | .array items :: stack => some ⟨.array (value :: items) :: stack, .separator⟩
  | .member members key :: stack =>
    some ⟨.object (Entries.insert key value members) :: stack, .separator⟩
  | .object _ :: _ => none

/-- Opens an array or object. -/
def push (frame : Frame) (expected : Expected) (stack : List Frame) : Option State :=
  if stack.length < nestingLimit then some ⟨frame :: stack, expected⟩ else none

/-- Reads a token where a value must come. -/
def value (stack : List Frame) : Token → Option State
  | .null => complete .null stack
  | .bool b => complete (.bool b) stack
  | .number n => complete (.number n) stack
  | .string s => complete (.string s) stack
  | .openArray => push (.array []) .valueOrEnd stack
  | .openObject => push (.object []) .keyOrEnd stack
  | _ => none

/-- Reads a token where a key must come. -/
def key : List Frame → Token → Option State
  | .object members :: stack, .string s => some ⟨.member members s :: stack, .colon⟩
  | _, _ => none

/-- Closes the innermost array. -/
def closeArray : List Frame → Option State
  | .array items :: stack => complete (.array items.reverse) stack
  | _ => none

/-- Closes the innermost object. -/
def closeObject : List Frame → Option State
  | .object members :: stack => complete (.object members) stack
  | _ => none

/-- Reads one token. -/
def step (token : Token) : State → Option State
  | ⟨stack, .value⟩ => value stack token
  | ⟨stack, .valueOrEnd⟩ => if token = .closeArray then closeArray stack else value stack token
  | ⟨stack, .key⟩ => key stack token
  | ⟨stack, .keyOrEnd⟩ => if token = .closeObject then closeObject stack else key stack token
  | ⟨stack, .colon⟩ => if token = .colon then some ⟨stack, .value⟩ else none
  | ⟨.array items :: stack, .separator⟩ =>
    if token = .comma then some ⟨.array items :: stack, .value⟩
    else if token = .closeArray then closeArray (.array items :: stack)
    else none
  | ⟨.object members :: stack, .separator⟩ =>
    if token = .comma then some ⟨.object members :: stack, .key⟩
    else if token = .closeObject then closeObject (.object members :: stack)
    else none
  | ⟨_, .separator⟩ => none
  | ⟨_, .nothing _⟩ => none

/-- Reads tokens from a state. -/
def run (tokens : List Token) (state : State) : Option State :=
  tokens.foldlM (fun state token => step token state) state

end Reader

/-- The value that a list of tokens is. -/
def ofTokens? (tokens : List Token) : Option Json :=
  match Reader.run tokens ⟨[], .value⟩ with
  | some ⟨_, .nothing value⟩ => some value
  | _ => none

/-- The value of a text, as JSON is read strictly. -/
def parse? (s : List Char) : Option Json := (tokenize s).bind ofTokens?

/-- `parse?`, on strings. -/
def ofString? (s : String) : Option Json := parse? s.toList

end Switchboard.Json
