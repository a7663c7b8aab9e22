import Switchboard.CommandLine.Parser
import Switchboard.Text.Quoted

/-!
# Parameters

A command declares its parameters. Each becomes an argument on the command line, and from there an
argument of the call under its own name: null when it is absent, else a value of its kind.
-/

namespace Switchboard

/-- What values a parameter takes. -/
inductive ParamKind where
  | text
  | integer
  | float
  | bool
  /-- A JSON value in a loose spelling. -/
  | literal
  /-- One of these texts, found up to case and kept as it stands here. -/
  | choice (choices : List String)
  deriving DecidableEq, Repr

/-- A parameter of a command. -/
structure Param where
  name : String
  kind : ParamKind
  help : Option String
  required : Bool
  positional : Bool
  default : Option String
  deriving DecidableEq, Repr

/-- How words are read for a kind. -/
def ParamKind.reader : ParamKind → CommandLine.Reader
  | text => .text
  | integer => .integer
  | float => .float
  | bool => .bool
  | literal => .literal
  | choice choices => .choice choices

/-- A kind shown for inspection. -/
def ParamKind.inspect : ParamKind → List Char
  | text => "Text".toList
  | integer => "Integer".toList
  | float => "Float".toList
  | bool => "Bool".toList
  | literal => "Literal".toList
  | choice choices => "Choice(".toList ++ Text.inspectList (choices.map Text.quoted) ++ [')']

namespace Param

/-- A required positional parameter. -/
def argument (name : String) (kind : ParamKind) : Param := ⟨name, kind, none, true, true, none⟩

/-- An optional parameter given by its name. -/
def option (name : String) (kind : ParamKind) : Param := ⟨name, kind, none, false, false, none⟩

/-- A parameter that is true when its name is given. -/
def flag (name : String) : Param := option name .bool

/-- The parameter with a help text. -/
def withHelp (help : String) (p : Param) : Param := { p with help := some help }

/-- The parameter, required or not. -/
def withRequired (required : Bool) (p : Param) : Param := { p with required }

/-- The parameter with a default, which makes it optional. -/
def withDefault (word : String) (p : Param) : Param :=
  { p with default := some word, required := false }

/-- The name on the command line, with dashes for underscores. -/
def long (p : Param) : String :=
  String.ofList (p.name.toList.map fun c => if c = '_' then '-' else c)

/-- How the parameter is given on the command line. -/
def shape (p : Param) : CommandLine.Shape :=
  if p.positional then .positional p.kind.reader
  else if p.kind = .bool then .flag p.long
  else .option p.long p.kind.reader

/-- The parameter as an argument on the command line. -/
def toArg (p : Param) : CommandLine.Arg := ⟨p.name, p.help, p.required, p.default, p.shape⟩

/-- A value that was read, if it is of a kind. -/
def valueOf : ParamKind → CommandLine.Value → Json
  | .text, .text s => .string s
  | .choice _, .text s => .string s
  | .integer, .int n => .ofInt n
  | .float, .float x => .ofFloat x
  | .bool, .bool b => .bool b
  | .literal, .literal v => v
  | _, _ => .null

/-- The value of the parameter, null when it has none. -/
def extract (p : Param) (values : Entries CommandLine.Value) : Json :=
  match Entries.get? p.name values with
  | some value => valueOf p.kind value
  | none => .null

/-- A parameter shown for inspection. -/
def inspect (p : Param) : List Char :=
  Text.inspectRecord "Param"
    [("name", Text.quoted p.name),
      ("kind", p.kind.inspect),
      ("help", Text.inspectOption (p.help.map Text.quoted)),
      ("required", Text.inspectBool p.required),
      ("positional", Text.inspectBool p.positional),
      ("default", Text.inspectOption (p.default.map Text.quoted))]

end Param

end Switchboard
