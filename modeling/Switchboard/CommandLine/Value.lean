import Switchboard.Address
import Switchboard.Binary64.Reading
import Switchboard.Choice
import Switchboard.Literal
import Switchboard.Token

/-!
# Values on the command line

What a word on the command line may denote, and how it is read. A reader refuses a word either
because it is none of a fixed set of words, or with a reason of its own.
-/

namespace Switchboard.CommandLine

/-- Why a command line is not accepted, or what it asks for instead of a command. -/
inductive Fault where
  | unknownArgument
  | invalidSubcommand
  | missingSubcommand
  /-- No argument at all, where a subcommand is needed. -/
  | nothingGiven
  | missingRequiredArgument
  | invalidValue
  | tooManyValues
  | argumentConflict
  | valueValidation (reason : String)
  | displayHelp
  | displayVersion
  deriving DecidableEq, Repr

/-- Whether the command line asks for a text to be shown, which is no failure. -/
def Fault.isRequest : Fault → Bool
  | displayHelp => true
  | displayVersion => true
  | _ => false

/-- The exit code of a process that ends with a fault. -/
def Fault.exitCode (fault : Fault) : Nat := if fault.isRequest then 0 else 2

/-- What is wrong with a command line, in words; nothing for a request. -/
def Fault.message : Fault → String
  | unknownArgument => "unexpected argument"
  | invalidSubcommand => "unrecognized subcommand"
  | missingSubcommand => "a subcommand is required"
  | nothingGiven => "arguments are required"
  | missingRequiredArgument => "a required argument is missing"
  | invalidValue => "a value is missing or is not one of the possible values"
  | tooManyValues => "an argument that takes no value has one"
  | argumentConflict => "an argument is given twice"
  | valueValidation reason => "invalid value: " ++ reason
  | displayHelp => ""
  | displayVersion => ""

/-- A value that a word denotes. -/
inductive Value where
  | text (s : String)
  | int (n : Int)
  | float (x : Binary64)
  | bool (b : Bool)
  | literal (v : Json)
  | count (n : Nat)
  deriving Repr, Inhabited

/-- How a word is read. -/
inductive Reader where
  | text
  | integer
  | float
  | bool
  | literal
  | choice (choices : List String)
  | address
  | token
  /-- One of a fixed set of words. -/
  | oneOf (words : List String)
  deriving DecidableEq, Repr

/-- Why a word is not an integer, in words. -/
def integerReason : Decimal.IntegerFault → String
  | .empty => "cannot parse integer from empty string"
  | .invalidDigit => "invalid digit found in string"
  | .tooLarge => "number too large to fit in target type"
  | .tooSmall => "number too small to fit in target type"

/-- Why a word is not a floating-point number, in words. -/
def floatReason : Binary64.Fault → String
  | .empty => "cannot parse float from empty string"
  | .invalid => "invalid float literal"

/-- A text that a check lets pass, or its message. -/
def validated {α : Type} (value : α → Value) : Except UsageError α → Except Fault Value
  | .ok a => .ok (value a)
  | .error error => .error (.valueValidation error.message)

/-- Reads one of the two words of truth. -/
def readBool (word : String) : Except Fault Value :=
  if word = "true" then .ok (.bool true)
  else if word = "false" then .ok (.bool false)
  else .error .invalidValue

/-- Reads a word. -/
def Reader.read (word : String) : Reader → Except Fault Value
  | text => .ok (.text word)
  | integer =>
    match Decimal.integer Decimal.leastInt64 Decimal.greatestInt64 word.toList with
    | .ok n => .ok (.int n)
    | .error fault => .error (.valueValidation (integerReason fault))
  | float =>
    match Binary64.parse word.toList with
    | .ok x => .ok (.float x)
    | .error fault => .error (.valueValidation (floatReason fault))
  | bool => readBool word
  | literal => validated .literal (Literal.parse word)
  | choice choices => validated .text (Choice.parse choices word)
  | address => validated .text (Address.parse word)
  | token => validated .text (Token.parse word)
  | oneOf words => if word ∈ words then .ok (.text word) else .error .invalidValue

end Switchboard.CommandLine
