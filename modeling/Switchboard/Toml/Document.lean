import Switchboard.Toml.Scalar
import Switchboard.Toml.Text

/-!
# TOML documents

A document is a sequence of statements, one or more lines each: a key with a value, a header of a
table, or a header that begins one more of several tables. Reading a document means reading its
statements and letting each of them change the table that is built.

Arrays and tables in braces may be nested up to a limit, and so may the parts of a key.
-/

namespace Switchboard.Toml

/-- How many arrays and tables may be open at a time, and how many parts a key may have. -/
def nestingLimit : Nat := 79

/-- A statement of a document. -/
inductive Statement where
  | pair (key : List String) (value : Toml)
  | header (path : List String)
  | nextHeader (path : List String)

/-- A text without the blanks in front. -/
def skipBlanks (s : List Char) : List Char := s.dropWhile isBlank

/-- Passes over blanks, line ends and comments. -/
def skipLines (inComment : Bool) : List Char → Option (List Char)
  | [] => some []
  | c :: rest =>
    if c = '\n' then skipLines false rest
    else if inComment then if isTextChar c then skipLines true rest else none
    else if c = '#' then skipLines true rest
    else if isBlank c then skipLines false rest
    else some (c :: rest)

/-- Passes over the rest of a line, in which only a comment may stand. -/
def endLine? (s : List Char) : Option (List Char) :=
  let afterComment :=
    match skipBlanks s with
    | '#' :: rest => rest.dropWhile isTextChar
    | rest => rest
  match afterComment with
  | [] => some []
  | '\n' :: rest => some rest
  | _ => none

/-- The characters of keys without quotes. -/
def isKeyChar (c : Char) : Bool := c.isAlphanum || c == '_' || c == '-'

/-- One part of a key. -/
def keyPart? (s : List Char) : Option (String × List Char) :=
  match s.takeWhile isKeyChar with
  | [] => lineString? s
  | part => some (String.ofList part, s.dropWhile isKeyChar)

/-- A key with at most so many parts, dots between them. -/
def key? : Nat → List Char → Option (List String × List Char)
  | 0, _ => none
  | limit + 1, s =>
    (keyPart? (skipBlanks s)).bind fun (part, rest) =>
      match skipBlanks rest with
      | '.' :: rest => (key? limit rest).map fun (parts, rest) => (part :: parts, rest)
      | rest => some ([part], rest)

/-- How a value is read: what it is, and what follows it. -/
abbrev ValueReader := List Char → Option (Toml × List Char)

/-- A key, an equals sign and a value. -/
def pair? (value : ValueReader) (s : List Char) :
    Option ((List String × Toml) × List Char) :=
  (key? nestingLimit s).bind fun (key, rest) =>
    match rest with
    | '=' :: rest => (value (skipBlanks rest)).map fun (v, rest) => ((key, v), rest)
    | _ => none

/-- The items of an array up to its closing bracket, of which there are fewer than the fuel. -/
def items? (value : ValueReader) : Nat → List Char → Option (List Toml × List Char)
  | 0, _ => none
  | fuel + 1, s =>
    (skipLines false s).bind fun s =>
      match s with
      | ']' :: rest => some ([], rest)
      | s =>
        (value s).bind fun (item, rest) =>
          (skipLines false rest).bind fun rest =>
            match rest with
            | ',' :: rest =>
              (items? value fuel rest).map fun (items, rest) => (item :: items, rest)
            | ']' :: rest => some ([item], rest)
            | _ => none

/-- The pairs of a table in braces up to its closing brace, of which there are fewer than the
fuel. -/
def pairs? (value : ValueReader) : Nat → List Char →
    Option (List (List String × Toml) × List Char)
  | 0, _ => none
  | fuel + 1, s =>
    (pair? value s).bind fun (pair, rest) =>
      match skipBlanks rest with
      | ',' :: rest => (pairs? value fuel rest).map fun (pairs, rest) => (pair :: pairs, rest)
      | '}' :: rest => some ([pair], rest)
      | _ => none

/-- A table in braces, after the opening one. -/
def braces? (value : ValueReader) (s : List Char) : Option (Toml × List Char) :=
  match skipBlanks s with
  | '}' :: rest => some (.table .closed [], rest)
  | s =>
    (pairs? value (s.length + 1) s).bind fun (pairs, rest) =>
      (ofPairs? pairs).map fun table => (table, rest)

/-- A value without arrays or tables. -/
def scalar? (s : List Char) : Option (Toml × List Char) :=
  match string? s with
  | some (text, rest) => some (.string text, rest)
  | none =>
    let (word, rest) := takeWord s
    (ofWord? word).map fun value => (value, rest)

/-- A value in which at most so many arrays and tables are nested. -/
def value? : Nat → ValueReader
  | 0, s => scalar? s
  | limit + 1, s =>
    match s with
    | '[' :: rest =>
      (items? (value? limit) (rest.length + 1) rest).map fun (items, rest) => (.array items, rest)
    | '{' :: rest => braces? (value? limit) rest
    | s => scalar? s

/-- The path of a header, after its opening brackets and up to its closing ones. -/
def header? (close : List Char) (s : List Char) : Option (List String × List Char) :=
  (key? nestingLimit s).bind fun (path, rest) =>
    if close.isPrefixOf rest then some (path, rest.drop close.length) else none

/-- A statement up to the end of its last line. -/
def statement? (s : List Char) : Option (Statement × List Char) := do
  let (statement, rest) ←
    match s with
    | '[' :: '[' :: rest =>
      (header? [']', ']'] rest).map fun (path, rest) => (Statement.nextHeader path, rest)
    | '[' :: rest => (header? [']'] rest).map fun (path, rest) => (Statement.header path, rest)
    | s => (pair? (value? nestingLimit) s).map fun ((key, v), rest) => (Statement.pair key v, rest)
  let rest ← endLine? rest
  return (statement, rest)

/-- The statements of a text, of which there are fewer than the fuel. -/
def statements? : Nat → List Char → Option (List Statement)
  | 0, _ => none
  | fuel + 1, s =>
    (skipLines false s).bind fun s =>
      if s.isEmpty then some []
      else (statement? s).bind fun (statement, rest) => (statements? fuel rest).map (statement :: ·)

/-! ## The table of a document -/

/-- A document while it is built: its table, and the path of the last header. -/
structure Building where
  members : Members
  header : List String

/-- Lets a statement change the document. -/
def Building.add (b : Building) : Statement → Option Building
  | .pair key value =>
    (descend false (assign key value) b.header .header b.members).map fun members =>
      { b with members }
  | .header path => (beginTable path .header b.members).map fun members => ⟨members, path⟩
  | .nextHeader path => (beginNextTable path .header b.members).map fun members => ⟨members, path⟩

/-- A text with line feeds in the place of carriage returns with line feeds. -/
def withLineFeeds : List Char → List Char
  | [] => []
  | '\r' :: '\n' :: rest => '\n' :: withLineFeeds rest
  | c :: rest => c :: withLineFeeds rest

/-- A text without the mark that tells its byte order. -/
def dropByteOrderMark : List Char → List Char
  | '\ufeff' :: rest => rest
  | s => s

/-- The table of a document. -/
def parse? (text : String) : Option Members :=
  let s := withLineFeeds (dropByteOrderMark text.toList)
  (statements? (s.length + 1) s).bind fun statements =>
    (statements.foldlM Building.add ⟨[], []⟩).map Building.members

end Switchboard.Toml
