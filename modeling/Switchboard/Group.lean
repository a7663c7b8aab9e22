import Switchboard.Composed

/-!
# Command groups

A device type bound to its registry. A group finds and composes commands, checks connection
parameters, connects to devices, and runs commands: in a session on one device, or once on a device
that is connected for it.

Before a command runs once, it is found first and the parameters are checked next; nothing has
happened when either fails.
-/

namespace Switchboard

/-- A device type with its registry. -/
structure Group (δ : Type) where
  type : DeviceType δ
  registry : Registry δ

/-- A device connected in a group. -/
structure Session (δ : Type) where
  group : Group δ
  context : Context
  device : δ

namespace Group

variable {δ : Type}

/-- The group of a device type. -/
def ofType (type : DeviceType δ) : Except WiringError (Group δ) :=
  type.registered.map fun registry => ⟨type, registry⟩

/-- The name of a group. -/
def name (g : Group δ) : String := g.type.groupName

/-- The command of a name in a context. -/
def resolve (g : Group δ) (command : String) (context : Context) :
    Except DispatchError (Composed δ) :=
  match g.registry.get? command with
  | some d => .ok (.compose d context)
  | none => .error (.usage (.unknownCommand command))

/-- Connects to a device. It logs as much as the context says. -/
def connect (g : Group δ) (context : Context) (connection : Connection) :
    Except DispatchError (Session δ) :=
  match connection.validate with
  | .ok () => .ok ⟨g, context, g.type.connect { connection with debug := context.debug }⟩
  | .error error => .error (.usage error)

/-- Runs a command once. There is a device afterwards only if one was connected. -/
def invoke (g : Group δ) (context : Context) (connection : Connection) (command : String)
    (arguments : Arguments) : Call (Option δ) :=
  match g.resolve command context with
  | .error error => .ended none arguments (.error error)
  | .ok composed =>
    match g.connect context connection with
    | .error error => .ended none arguments (.error error)
    | .ok session =>
      let call := composed.call g.type arguments session.device
      { call with device := some call.device }

/-! ## The command line of a group -/

/-- An argument that names the device. -/
def connectionArg (id help : String) (required : Bool) (reader : CommandLine.Reader) :
    CommandLine.Arg :=
  ⟨id, some help, required, none, .option id reader⟩

/-- The arguments that every group has. -/
def connectionArgs : List CommandLine.Arg :=
  [connectionArg "ip" "Device IP address" true .address,
    connectionArg "token" "Device token (32 characters)" true .token,
    connectionArg "model" "Device model, skips autodetection" false .text]

/-- The group on the command line, with one subcommand for each command. -/
def toCommand (g : Group δ) : CommandLine.Command where
  name := g.name
  about := g.type.about
  afterHelp :=
    if g.type.supportedModels.isEmpty then none
    else some ("Supported models: " ++ Text.joinStrings ", " g.type.supportedModels)
  hidden := false
  hasVersion := false
  args := connectionArgs
  subcommands := g.registry.commands.map fun entry => entry.2.toCommand
  needsSubcommand := true
  takesAnySubcommand := false

/-- A text that must have been found on the command line. -/
def requiredText (id : String) (found : CommandLine.Matches) : Except UsageError String :=
  match found.text? id with
  | some s => .ok s
  | none => .error (.missingArgument id)

/-- What to run, out of what was found on the command line: the connection parameters, the command
and its arguments. -/
def selection (g : Group δ) (found : CommandLine.Matches) :
    Except UsageError (Connection × String × Arguments) :=
  match found.subcommand? with
  | none => .error (.missingArgument "command")
  | some (command, below) =>
    match g.registry.get? command with
    | none => .error (.unknownCommand command)
    | some d => do
      let address ← requiredText "ip" found
      let token ← requiredText "token" found
      return (⟨address, token, found.text? "model", 0⟩, command, d.extractArguments below.values)

/-- Runs what was found on the command line. -/
def dispatch (g : Group δ) (context : Context) (found : CommandLine.Matches) : Call (Option δ) :=
  match g.selection found with
  | .error error => .ended none [] (.error (.usage error))
  | .ok (connection, command, arguments) => g.invoke context connection command arguments

end Group

/-- Runs a command on the device of a session. -/
def Session.run {δ : Type} (session : Session δ) (command : String) (arguments : Arguments) :
    Call δ :=
  match session.group.resolve command session.context with
  | .error error => .ended session.device arguments (.error error)
  | .ok composed => composed.call session.group.type arguments session.device

end Switchboard
