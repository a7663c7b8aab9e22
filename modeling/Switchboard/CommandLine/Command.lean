import Switchboard.CommandLine.Value

/-!
# Commands on the command line

What a command line may look like: a command, its arguments, and the commands below it. Every
command also knows `--help` and `-h`, one with a version `--version` and `-V`, and one with
subcommands the word `help`; these are not among the arguments listed here.
-/

namespace Switchboard.CommandLine

/-- How an argument is given. -/
inductive Shape where
  /-- By a word in its place. -/
  | positional (reader : Reader)
  /-- By its name after two dashes and a word. -/
  | option (long : String) (reader : Reader)
  /-- By its name after two dashes, which makes it true. -/
  | flag (long : String)
  /-- By its name after two dashes or by a letter, any number of times; they are counted. -/
  | count (long : String) (letter : Char)
  deriving DecidableEq, Repr

/-- The name after two dashes. -/
def Shape.long? : Shape → Option String
  | positional _ => none
  | option long _ => some long
  | flag long => some long
  | count long _ => some long

/-- The letter after one dash. -/
def Shape.letter? : Shape → Option Char
  | count _ letter => some letter
  | _ => none

/-- How the word in an argument's place is read. -/
def Shape.positional? : Shape → Option Reader
  | positional reader => some reader
  | _ => none

/-- An argument of a command. -/
structure Arg where
  id : String
  help : Option String
  required : Bool
  /-- The word that is read when the argument is not given. -/
  default : Option String
  shape : Shape
  deriving DecidableEq, Repr

/-- A command with its arguments and the commands below it. -/
structure Command where
  name : String
  about : Option String
  /-- A text shown after the help. -/
  afterHelp : Option String
  hidden : Bool
  hasVersion : Bool
  args : List Arg
  subcommands : List Command
  /-- Whether one of the subcommands must be chosen. -/
  needsSubcommand : Bool
  /-- Whether any word may be chosen as a subcommand; what follows it is not looked at. -/
  takesAnySubcommand : Bool
  deriving Repr

instance : Inhabited Command := ⟨⟨"", none, none, false, false, [], [], false, false⟩⟩

/-- A command with a name and arguments, and nothing else. -/
def Command.simple (name : String) (args : List Arg) : Command :=
  ⟨name, none, none, false, false, args, [], false, false⟩

/-- The subcommand of a name. -/
def Command.find? (name : String) (command : Command) : Option Command :=
  command.subcommands.find? (·.name = name)

/-- The positional arguments and how they are read, in order. -/
def Command.positionals (command : Command) : List (Arg × Reader) :=
  command.args.filterMap fun arg => arg.shape.positional?.map (arg, ·)

/-- Whether a word is the request for help on a subcommand. -/
def Command.isHelpWord (word : String) (command : Command) : Bool :=
  word = "help" && !command.subcommands.isEmpty

end Switchboard.CommandLine
