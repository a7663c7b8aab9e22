import Switchboard.Config
import Switchboard.Error

/-!
# Error reports

What the user is told when a command fails: a message, suggestions what to do, and details. The
message is what was being done when the error arose, if that is known, else the error itself; the
details are all messages beneath it. The suggestions and the exit code go by the error itself.
-/

namespace Switchboard

/-- An error that ends a run of the program. -/
inductive RunError where
  | dispatch (error : DispatchError)
  | config (error : ConfigError)
  /-- Any other error, by its message. -/
  | plain (message : String)

/-- An error and what was being done when it arose, the innermost last. -/
structure Failure where
  contexts : List String
  error : RunError

/-- An error prepared for display. -/
structure Report where
  message : String
  suggestions : List String
  details : List String
  exitCode : Nat
  deriving DecidableEq, Repr

namespace RunError

/-- The message of an error. -/
def message : RunError → String
  | dispatch error => error.message
  | config error => error.message
  | plain message => message

/-- The messages of the errors beneath an error. -/
def causes : RunError → List String
  | dispatch error => error.causes
  | config error => error.causes
  | plain _ => []

/-- The exit code of a run that ends with an error. -/
def exitCode : RunError → Nat
  | dispatch error => error.exitCode
  | _ => 1

/-- What to do about an error of a command. The commands are those that could have been given. -/
def dispatchSuggestions (commands : List String) : DispatchError → List String
  | .usage (.unknownCommand _) =>
    if commands.isEmpty then [] else ["Available commands: " ++ Text.joinStrings ", " commands]
  | .usage (.invalidAddress ..) => ["Pass an IPv4 or IPv6 address, e.g. --ip 192.168.1.20"]
  | .usage (.invalidToken expected _) =>
    ["Tokens are " ++ String.ofList (Decimal.ofNat expected) ++ " hexadecimal characters"]
  | .device (.response ..) => ["Use --output json to see the device's error payload"]
  | .device (.communication _) =>
    ["Check that the device is powered and reachable",
      "Run with -d to see the exchanged messages"]
  | .wiring _ => ["This is a bug in the device registration, please report it"]
  | _ => []

/-- What to do about an error. -/
def suggestions (commands : List String) : RunError → List String
  | dispatch error => dispatchSuggestions commands error
  | config (.invalidEnv name _) => ["Unset " ++ name ++ " or fix its value"]
  | config _ => ["Check the configuration file syntax"]
  | plain _ => []

end RunError

/-- All messages of a failure, from the outside in. -/
def Failure.messages (f : Failure) : List String :=
  f.contexts ++ f.error.message :: f.error.causes

namespace Report

/-- The report of a failure. -/
def ofFailure (f : Failure) (commands : List String) : Report where
  message := f.messages.headD ""
  suggestions := f.error.suggestions commands
  details := f.messages.tail
  exitCode := f.error.exitCode

/-- A report with one more suggestion. -/
def suggest (suggestion : String) (r : Report) : Report :=
  { r with suggestions := r.suggestions ++ [suggestion] }

/-- A word that stands out, where colors are shown. -/
def styled (colors : Bool) (style text : String) : String :=
  if colors then "\x1b[" ++ style ++ "m" ++ text ++ "\x1b[0m" else text

/-- The first line, which tells the message. -/
def headline (colors : Bool) (r : Report) : String :=
  styled colors "1;31" "Error:" ++ " " ++ r.message

/-- The suggestions, numbered from one, one a line. -/
def suggestionLines (number : Nat) : List String → String
  | [] => ""
  | suggestion :: rest =>
    "\n  " ++ String.ofList (Decimal.ofNat number) ++ ". " ++ suggestion ++
      suggestionLines (number + 1) rest

/-- The part with the suggestions, if there are any. -/
def suggestionPart (colors : Bool) (suggestions : List String) : String :=
  if suggestions.isEmpty then ""
  else "\n" ++ styled colors "1;36" "Suggestions:" ++ suggestionLines 1 suggestions ++ "\n"

/-- The part with one detail. -/
def detailPart (colors : Bool) (detail : String) : String :=
  "\n" ++ styled colors "33" "Details:" ++ "\n  " ++ detail ++ "\n"

/-- A report as text. -/
def format (colors : Bool) (r : Report) : String :=
  r.headline colors ++ "\n" ++ suggestionPart colors r.suggestions ++
    r.details.foldr (fun detail rest => detailPart colors detail ++ rest) ""

end Report

end Switchboard
