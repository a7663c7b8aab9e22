import Switchboard.Error
import Switchboard.Json.Printer

/-!
# Simulated devices

A stand-in for a device at the other end of a line: it has a fixed identity and properties that can
be read and written. A request is a method name with JSON parameters. Writing never adds a property,
and a request that fails changes nothing.
-/

namespace Switchboard

/-- What a device and the answer to a request are after the request. -/
abbrev Answered (δ α : Type) := δ × Except DeviceError α

/-- A simulated device. -/
structure Simulator where
  model : String
  firmware : String
  properties : Entries Json
  deriving Repr, Inhabited

namespace Simulator

/-- A simulated device without properties. -/
def ofIdentity (model firmware : String) : Simulator := ⟨model, firmware, []⟩

/-- A simulated device with one more property. -/
def withProperty (name : String) (value : Json) (s : Simulator) : Simulator :=
  { s with properties := Entries.insert name value s.properties }

/-- The code of requests with an unknown method. -/
def methodNotFound : Int := -32601

/-- The code of requests with parameters that do not fit. -/
def invalidParams : Int := -32602

/-- What a device sends along with an error. -/
def payload (code : Int) (message : String) : Json :=
  .object [("code", .ofInt code), ("message", .string message)]

/-- The error for parameters that do not fit. -/
def invalidParamsError (method : String) (params : Json) : DeviceError :=
  .response ("invalid parameters for '" ++ method ++ "': " ++ params.compactString)
    (payload invalidParams "Invalid params")

/-- The error for an unknown method. -/
def unknownMethodError (method : String) : DeviceError :=
  .response ("unknown method '" ++ method ++ "'") (payload methodNotFound "Method not found")

/-- The identity of a device, as it answers it. -/
def identity (s : Simulator) : Json :=
  .object
    [("fw_ver", .string s.firmware), ("hw_ver", .string "simulated"), ("model", .string s.model)]

/-- The value under a name; null for an unknown name and for what is no name. -/
def read (s : Simulator) (name : Json) : Json :=
  (name.asString?.bind fun name => Entries.get? name s.properties).getD .null

/-- The property that a method writes. -/
def written? (method : String) : Option String :=
  match method.toList with
  | 's' :: 'e' :: 't' :: '_' :: name => some (String.ofList name)
  | _ => none

/-- The value that parameters write: the first of an array, or any value but null itself. -/
def writtenValue? : Json → Option Json
  | .array items => items.head?
  | .null => none
  | value => some value

/-- Writes a property. -/
def write (method property : String) (params : Json) (s : Simulator) : Answered Simulator Json :=
  match writtenValue? params with
  | some value => (s.withProperty property value, .ok (.array [.string "ok"]))
  | none => (s, .error (invalidParamsError method params))

/-- Answers a request. -/
def send (method : String) (params : Json) (s : Simulator) : Answered Simulator Json :=
  if method = "info" then (s, .ok s.identity)
  else if method = "get_prop" then
    match params with
    | .array names => (s, .ok (.array (names.map s.read)))
    | _ => (s, .error (invalidParamsError method params))
  else
    match (written? method).filter fun name => (Entries.get? name s.properties).isSome with
    | some property => s.write method property params
    | none => (s, .error (unknownMethodError method))

/-- Reads one property. -/
def getProperty (name : String) (s : Simulator) : Answered Simulator Json :=
  let (s, answer) := s.send "get_prop" (.array [.string name])
  match answer with
  | .ok (.array (value :: _)) => (s, .ok value)
  | .ok _ => (s, .error (.communication ("empty response for '" ++ name ++ "'")))
  | .error error => (s, .error error)

end Simulator

end Switchboard
