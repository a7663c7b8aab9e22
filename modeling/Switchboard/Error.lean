import Switchboard.Decimal
import Switchboard.Json
import Switchboard.Text.Split

/-!
# Errors

Why a command cannot be found, called or finished. A usage error is what the user typed, a wiring
error is how device types were put together, a device error is what a device answered, and anything
else is an error with a message and the causes beneath it.

The exit code tells usage errors from all others.
-/

namespace Switchboard

/-- Errors in what the user typed. -/
inductive UsageError where
  | invalidAddress (value reason : String)
  | invalidToken (expected actual : Nat)
  | unknownCommand (name : String)
  | missingTemplateField (field : String)
  | malformedTemplate (template reason : String)
  | malformedLiteral (text : String)
  | invalidChoice (value : String) (choices : List String)
  | missingArgument (name : String)
  deriving DecidableEq, Repr

/-- Errors in how device types were put together. -/
inductive WiringError where
  | unregistered (typeName : String)
  | duplicateGroup (name : String)
  deriving DecidableEq, Repr

/-- Errors that a device reports, or that keep it from answering. -/
inductive DeviceError where
  | response (message : String) (payload : Json)
  | communication (message : String)
  deriving Repr

/-- Errors of a command call. -/
inductive DispatchError where
  | usage (error : UsageError)
  | wiring (error : WiringError)
  | device (error : DeviceError)
  /-- Any other error: its message, and the messages of its causes, the nearest first. -/
  | other (message : String) (causes : List String)
  deriving Repr

instance : Inhabited DispatchError := ⟨.other "" []⟩

/-- The message of a usage error. -/
def UsageError.message : UsageError → String
  | .invalidAddress value reason => "Invalid IP address '" ++ value ++ "': " ++ reason
  | .invalidToken expected actual =>
    "Token must be exactly " ++ String.ofList (Decimal.ofNat expected) ++ " characters, got " ++
      String.ofList (Decimal.ofNat actual)
  | .unknownCommand name => "Unknown command (" ++ name ++ ")"
  | .missingTemplateField field => "Missing value for template field '" ++ field ++ "'"
  | .malformedTemplate template reason =>
    "Malformed message template '" ++ template ++ "': " ++ reason
  | .malformedLiteral text => text ++ " is not a valid literal"
  | .invalidChoice value choices =>
    "'" ++ value ++ "' is not one of: " ++ Text.joinStrings ", " choices
  | .missingArgument name => "Missing required argument '" ++ name ++ "'"

/-- The message of a wiring error. -/
def WiringError.message : WiringError → String
  | .unregistered typeName =>
    "Device type " ++ typeName ++
      " has no command registry and can't be used as a command group"
  | .duplicateGroup name => "Device group '" ++ name ++ "' is registered twice"

/-- The message of a device error. -/
def DeviceError.message : DeviceError → String
  | .response message _ => "Device returned an error: " ++ message
  | .communication message => "Device communication failed: " ++ message

/-- What a device sent along with its error. -/
def DeviceError.payload? : DeviceError → Option Json
  | .response _ payload => some payload
  | .communication _ => none

namespace DispatchError

/-- The message of an error. -/
def message : DispatchError → String
  | .usage error => error.message
  | .wiring error => error.message
  | .device error => error.message
  | .other message _ => message

/-- Whether the user's input is at fault. -/
def isUsage : DispatchError → Bool
  | .usage _ => true
  | _ => false

/-- The exit code of a process that ends with an error. -/
def exitCode (error : DispatchError) : Nat := if error.isUsage then 2 else 1

/-- What a device sent along with its error. -/
def payload? : DispatchError → Option Json
  | .device error => error.payload?
  | _ => none

/-- The messages of the errors beneath an error. -/
def causes : DispatchError → List String
  | .other _ causes => causes
  | _ => []

end DispatchError

end Switchboard
