import Switchboard.Embedding
import Switchboard.Json.Inspection
import Switchboard.Output
import Switchboard.Param

/-!
# Command descriptors

How one method of a device type is exposed as a command: its name in lower case, its parameters, its
decorators, its own output strategy, and its options. A descriptor is built by declarations in any
order, and finished at the end. The option that disables autodetection never reaches the command
line; finishing takes it out of the options.
-/

namespace Switchboard

/-- A command of device type `δ`. -/
structure Descriptor (δ : Type) where
  name : String
  method : Rest δ
  /-- In the order of their declaration; the last stands outermost. -/
  decorators : List Layer
  defaultOutput : Option Output
  options : Entries Json
  params : List Param
  skipsAutodetect : Bool

/-- One step in building a descriptor. -/
inductive Declaration where
  /-- A help text, unless one was given as an option before. -/
  | about (text : String)
  | option (key : String) (value : Json)
  | param (p : Param)
  | decorator (layer : Layer)
  | defaultOutput (output : Output)
  | skipAutodetect

namespace Descriptor

variable {δ β : Type}

/-- The option that holds the help text. -/
def helpOption : String := "help"

/-- The option that hides a command from help texts. -/
def hiddenOption : String := "hidden"

/-- The option that disables autodetection. -/
def skipAutodetectOption : String := "skip_autodetect"

/-- A command with a name and a method, and nothing declared yet. -/
def start (name : String) (method : Rest δ) : Descriptor δ :=
  ⟨Text.lowerString name, method, [], none, [], [], false⟩

/-- Sets an option. -/
def setOption (key : String) (value : Json) (d : Descriptor δ) : Descriptor δ :=
  { d with options := Entries.insert key value d.options }

/-- Adds a declaration. -/
def declare (d : Descriptor δ) : Declaration → Descriptor δ
  | .about text =>
    if (Entries.get? helpOption d.options).isSome then d else d.setOption helpOption (.string text)
  | .option key value => d.setOption key value
  | .param p => { d with params := d.params ++ [p] }
  | .decorator layer => { d with decorators := d.decorators ++ [layer] }
  | .defaultOutput output => { d with defaultOutput := some output }
  | .skipAutodetect => d.setOption skipAutodetectOption (.bool true)

/-- Takes the option that disables autodetection out of the options. Only the value true disables
it. -/
def finish (d : Descriptor δ) : Descriptor δ :=
  match Entries.get? skipAutodetectOption d.options with
  | none => d
  | some value =>
    { d with
      options := Entries.erase skipAutodetectOption d.options
      skipsAutodetect := value.asBool?.getD false }

/-- A command with a name, a method and declarations. -/
def build (name : String) (method : Rest δ) (declarations : List Declaration) : Descriptor δ :=
  (declarations.foldl declare (start name method)).finish

theorem declare_method (d : Descriptor δ) (declaration : Declaration) :
    (d.declare declaration).method = d.method := by
  cases declaration with
  | about text => rw [declare]; split <;> rfl
  | _ => rfl

theorem finish_method (d : Descriptor δ) : d.finish.method = d.method := by
  unfold finish
  split <;> rfl

/-- Nothing that is declared changes the method. -/
theorem build_method (name : String) (method : Rest δ) (declarations : List Declaration) :
    (build name method declarations).method = method := by
  suffices h : ∀ d : Descriptor δ, (declarations.foldl declare d).method = d.method from
    (finish_method _).trans (h (start name method))
  induction declarations with
  | nil => exact fun _ => rfl
  | cons declaration declarations ih => exact fun d => (ih _).trans (d.declare_method declaration)

/-- The help text. -/
def help (d : Descriptor δ) : Option String :=
  (Entries.get? helpOption d.options).bind Json.asString?

/-- Whether help texts leave the command out. -/
def isHidden (d : Descriptor δ) : Bool :=
  ((Entries.get? hiddenOption d.options).bind Json.asBool?).getD false

/-- The command for a type that the device type is a part of. -/
def lift (e : Embedding δ β) (d : Descriptor β) : Descriptor δ :=
  { d with method := e.lift d.method }

/-- The command on the command line. -/
def toCommand (d : Descriptor δ) : CommandLine.Command :=
  { CommandLine.Command.simple d.name (d.params.map Param.toArg) with
    about := d.help
    hidden := d.isHidden }

/-- The arguments of a call, out of what was found on the command line. -/
def extractArguments (d : Descriptor δ) (values : Entries CommandLine.Value) : Arguments :=
  Entries.ofList (d.params.map fun p => (p.name, p.extract values))

/-- A descriptor shown for inspection. -/
def inspect (d : Descriptor δ) : List Char :=
  Text.inspectRecord "CommandDescriptor"
    [("name", Text.quoted d.name),
      ("decorators", Text.inspectList (d.decorators.map fun layer => Text.quoted layer.name)),
      ("default_output", Text.inspectOption (d.defaultOutput.map Output.inspect)),
      ("options", Json.inspectEntries d.options),
      ("params", Text.inspectList (d.params.map Param.inspect)),
      ("skip_autodetect", Text.inspectBool d.skipsAutodetect)]

end Descriptor

end Switchboard
