import Switchboard.DeviceType

/-!
# Composed commands

A command with everything that stands around its method, from the outside in: the decorators, the
last declared one first, then one output strategy, then autodetection. The strategy is that of the
context, if it has one, else the command's own, else the announcement of the command.

Autodetection fetches the information on the device, unless its model or the information is known.
-/

namespace Switchboard

/-- Settings that every command of one run of the program shares. -/
structure Context where
  /-- How much the device logs. -/
  debug : Nat
  /-- The output strategy for all commands. -/
  output : Option Output

/-- A command with its layers around it. -/
structure Composed (δ : Type) where
  name : String
  /-- The outermost first. -/
  layers : List Layer
  autodetects : Bool
  method : Rest δ

namespace Composed

variable {δ : Type}

/-- The output strategy of a command in a context. -/
def output (d : Descriptor δ) (context : Context) : Output :=
  (context.output.or d.defaultOutput).getD (.announce d.name)

/-- A command in a context. -/
def compose (d : Descriptor δ) (context : Context) : Composed δ where
  name := d.name
  layers := d.decorators.reverse ++ [(output d context).layer]
  autodetects := !d.skipsAutodetect
  method := d.method

/-- The names of the stages that a call goes through, the outermost first. -/
def stages (c : Composed δ) : List String :=
  c.layers.map Layer.name ++ (if c.autodetects then ["autodetect"] else []) ++ ["method"]

/-- Autodetection around the rest of a call. -/
def autodetect (type : DeviceType δ) (rest : Rest δ) : Rest δ := fun arguments device =>
  if type.isIdentified device then rest arguments device
  else
    let fetch := type.fetchInfo device
    match fetch.result with
    | .ok () => (rest arguments fetch.device).after fetch.events
    | .error error => ⟨fetch.device, arguments, fetch.events, .error (.device error)⟩

/-- The method with autodetection in front of it, where the command wants that. -/
def core (c : Composed δ) (type : DeviceType δ) : Rest δ :=
  if c.autodetects then autodetect type c.method else c.method

/-- Calls the command from a depth on: the layer at that depth around all that lies deeper, and the
core beneath the last layer. -/
def callFrom (c : Composed δ) (type : DeviceType δ) (depth : Nat) : Rest δ :=
  match h : c.layers[depth]? with
  | some layer => layer.around (c.callFrom type (depth + 1))
  | none => c.core type
termination_by c.layers.length - depth
decreasing_by
  have := (List.getElem?_eq_some_iff.1 h).1
  omega

/-- Calls the command on a device. -/
def call (c : Composed δ) (type : DeviceType δ) : Rest δ := c.callFrom type 0

/-- From a depth on, the layers that lie deeper stand around the core. -/
theorem callFrom_eq_nest (c : Composed δ) (type : DeviceType δ) (depth : Nat) :
    c.callFrom type depth = Layer.nest (c.layers.drop depth) (c.core type) := by
  fun_induction callFrom c type depth with
  | case1 depth layer h ih =>
    obtain ⟨hlt, hlayer⟩ := List.getElem?_eq_some_iff.1 h
    rw [List.drop_eq_getElem_cons hlt, hlayer, ih]
    rfl
  | case2 depth h =>
    rw [List.drop_eq_nil_of_le (List.getElem?_eq_none_iff.1 h)]
    rfl

theorem call_eq_nest (c : Composed δ) (type : DeviceType δ) :
    c.call type = Layer.nest c.layers (c.core type) := by
  rw [call, callFrom_eq_nest, List.drop_zero]

end Composed

end Switchboard
