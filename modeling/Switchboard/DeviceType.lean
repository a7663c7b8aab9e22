import Switchboard.Connection
import Switchboard.Registry

/-!
# Device types

What the dispatch of commands needs of a device type. Connecting does not reach the device; what
model it is, and other information on it, is fetched later, and may be known before.

A type without a registry cannot be used.
-/

namespace Switchboard

/-- What fetching the information on a device did. -/
structure Fetch (δ : Type) where
  device : δ
  events : List Event
  result : Except DeviceError Unit

/-- A device type. -/
structure DeviceType (δ : Type) where
  /-- The full name, parts separated by `::`, parameters in angle brackets at the end. -/
  typeName : String
  groupName : String
  about : Option String
  supportedModels : List String
  registry : Option (Registry δ)
  connect : Connection → δ
  /-- The model, if it is known. -/
  model : δ → Option String
  /-- Whether the information on the device is known. -/
  hasInfo : δ → Bool
  /-- Fetches the model and the information. -/
  fetchInfo : δ → Fetch δ

namespace DeviceType

/-- The last part of a full name, without parameters, in lower case. -/
def groupNameOf (typeName : String) : String :=
  let base := typeName.toList.takeWhile (· != '<')
  String.ofList (Text.lower ((Text.splitOn ':' base).getLastD []))

variable {δ β : Type}

/-- The registry of a type that must have one. -/
def registered (type : DeviceType δ) : Except WiringError (Registry δ) :=
  match type.registry with
  | some registry => .ok registry
  | none => .error (.unregistered type.typeName)

/-- Whether the model or the information is known. -/
def isIdentified (type : DeviceType δ) (device : δ) : Bool :=
  (type.model device).isSome || type.hasInfo device

end DeviceType

/-- Takes over the commands of an embedded type that must have a registry. -/
def Registry.inheritFrom {δ β : Type} (r : Registry δ) (e : Embedding δ β) (base : DeviceType β) :
    Except WiringError (Registry δ) :=
  base.registered.map fun commands => r.inherit e commands

example : DeviceType.groupNameOf "home::Wrapper<home::Lamp>" = "wrapper" := by decide +kernel

end Switchboard
