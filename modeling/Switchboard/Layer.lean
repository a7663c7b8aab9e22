import Switchboard.Arguments
import Switchboard.Event
import Switchboard.Outcome
import Switchboard.Text.Quoted

/-!
# Layers

A layer stands around the rest of a call. It sees the arguments, may emit events, may let the call
proceed with arguments of its choice any number of times, looks at what came back, and in the end
says how the call ended. It cannot touch the device: what a layer does is a `Course`, a tree with a
branch for every way in which the rest of the call may end, and only the rest of the call knows the
device.

`Course.run` follows a course on a device; `Layer.around` puts a layer around a rest.
-/

namespace Switchboard

/-- How a call or a part of it ends. -/
abbrev Result := Except DispatchError Outcome

/-- What a layer does, from some point on. -/
inductive Course where
  /-- Ends with these arguments and this result. -/
  | finish (arguments : Arguments) (result : Result)
  /-- Emits an event, then goes on. -/
  | emit (event : Event) (rest : Course)
  /-- Lets the call proceed with these arguments, then goes on by how it ended. -/
  | proceed (arguments : Arguments) (resume : Arguments → Result → Course)

/-- Something that stands around the rest of a call. -/
structure Layer where
  name : String
  course : Arguments → Course

/-- A change of the arguments that failed: the arguments as it left them, and the error. -/
structure FailedChange where
  arguments : Arguments
  error : DispatchError

/-- A change of the arguments. One that fails may have changed some of them already. -/
abbrev Change := Arguments → Except FailedChange Arguments

/-- A call that has ended. -/
structure Call (δ : Type) where
  /-- The device afterwards. -/
  device : δ
  /-- The arguments afterwards. -/
  arguments : Arguments
  /-- What became visible, in order. -/
  events : List Event
  result : Result

/-- The rest of a call: what it does on a device with given arguments. -/
abbrev Rest (δ : Type) := Arguments → δ → Call δ

variable {δ : Type}

/-- A call with events put in front of its own. -/
def Call.after (events : List Event) (call : Call δ) : Call δ :=
  { call with events := events ++ call.events }

/-- A call that ends at once. -/
def Call.ended (device : δ) (arguments : Arguments) (result : Result) : Call δ :=
  ⟨device, arguments, [], result⟩

/-- Follows a course on a device, with `rest` as the rest of the call. -/
def Course.run (rest : Rest δ) : Course → δ → Call δ
  | .finish arguments result, device => .ended device arguments result
  | .emit event course, device => (course.run rest device).after [event]
  | .proceed arguments resume, device =>
    let call := rest arguments device
    ((resume call.arguments call.result).run rest call.device).after call.events

namespace Layer

/-- A layer around a rest. -/
def around (layer : Layer) (rest : Rest δ) : Rest δ :=
  fun arguments device => (layer.course arguments).run rest device

/-- Layers around a rest, the first outermost. -/
def nest (layers : List Layer) (rest : Rest δ) : Rest δ := layers.foldr around rest

/-- A layer that passes everything on. -/
def transparent (name : String) : Layer where
  name
  course arguments := .proceed arguments .finish

/-- A layer that only changes the arguments, and may fail to. -/
def mapArguments (name : String) (change : Change) : Layer where
  name
  course arguments :=
    match change arguments with
    | .ok arguments => .proceed arguments .finish
    | .error failed => .finish failed.arguments (.error failed.error)

/-- A layer shown for inspection. -/
def inspect (layer : Layer) : List Char :=
  Text.inspectRecord "Decorator" [("name", Text.quoted layer.name)]

end Layer

end Switchboard
