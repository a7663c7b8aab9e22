import Switchboard.Device.Generic

/-!
# Smart plugs

A power plug with a light and a thermometer. It embeds a generic device and takes over its commands,
except that its information also tells whether it is on.
-/

namespace Switchboard

/-- The state of a plug. -/
structure PlugStatus where
  isOn : Bool
  led : Bool
  temperature : Binary64
  deriving DecidableEq, Repr

/-- A smart plug. -/
structure Plug where
  base : GenericDevice

/-- The word for a switch that is on or off. -/
def onOff (state : Bool) : String := if state then "on" else "off"

namespace PlugStatus

/-- The properties that make up the state, in the order in which they are read. -/
def properties : List String := ["power", "led", "temperature"]

/-- The state in the values of the properties. What is no number is no temperature. -/
def ofValues : Json → Except DeviceError PlugStatus
  | .array (power :: led :: temperature :: _) =>
    .ok ⟨power.isText "on", led.isText "on", temperature.asFloat?.getD (Binary64.zero false)⟩
  | _ => .error (.communication "incomplete status response")

/-- The state for humans, one line a property. -/
def text (s : PlugStatus) : String :=
  "Power: " ++ onOff s.isOn ++ "\nLED: " ++ onOff s.led ++ "\nTemperature: " ++
    (Outcome.float s.temperature).render ++ " °C"

/-- The state as a JSON value. -/
def toJson (s : PlugStatus) : Json :=
  .object [("is_on", .bool s.isOn), ("led", .bool s.led), ("temperature", .ofFloat s.temperature)]

/-- The state as the outcome of a command. -/
def toOutcome (s : PlugStatus) : Outcome := .record s.text s.text s.toJson

end PlugStatus

namespace Plug

/-- The generic device inside a plug. -/
def embedding : Embedding Plug GenericDevice where
  view p := p.base
  put base _ := ⟨base⟩
  view_put _ _ := rfl
  put_view _ := rfl
  put_put _ _ _ := rfl

/-- Connects to a plug as it comes from the factory. -/
def connect (connection : Connection) : Plug :=
  let transport := Simulator.ofIdentity "acme.plug.v1" "2.1.0"
    |>.withProperty "power" (.string "off")
    |>.withProperty "led" (.string "on")
    |>.withProperty "temperature" (.ofFloat (.ofRatio false 63 2))
  ⟨.ofTransport connection transport⟩

/-- Sends a request. -/
def send (method : String) (params : Json) (p : Plug) : Answered Plug Json :=
  let (base, answer) := p.base.send method params
  (⟨base⟩, answer)

/-- Reads the values of the properties. -/
def readValues (p : Plug) : Answered Plug Json :=
  p.send "get_prop" (.array (PlugStatus.properties.map .string))

/-- Reads the state. -/
def status (p : Plug) : Answered Plug PlugStatus :=
  let (p, answer) := p.readValues
  (p, answer.bind PlugStatus.ofValues)

/-- Switches the plug. -/
def setPower (on : Bool) (p : Plug) : Answered Plug Json :=
  p.send "set_power" (.array [.string (onOff on)])

/-- Sets the light if a state is given, then reads it back. -/
def led (state : Option String) (p : Plug) : Answered Plug String :=
  let (p, answer) :=
    match state with
    | some state => p.send "set_led" (.array [.string state])
    | none => (p, .ok .null)
  match answer with
  | .ok _ =>
    let (p, status) := p.status
    (p, status.map fun status => onOff status.led)
  | .error error => (p, .error error)

/-- Reads the values of the properties by their names. -/
def propertyValues (p : Plug) : Answered Plug Json :=
  let (p, answer) := p.readValues
  (p, answer.bind fun values =>
    match values.asArray? with
    | some values => .ok (.object (Entries.ofList (PlugStatus.properties.zip values)))
    | none => .error (.communication "malformed property response"))

/-- Fetches the information on the plug and whether it is on, in rows. -/
def infoRows (p : Plug) : Answered Plug (List (List String)) :=
  let (base, answer) := p.base.queryInfo
  match answer with
  | .ok info =>
    let (p, status) := status ⟨base⟩
    (p, status.map fun status => info.rows ++ [["Power:", onOff status.isOn]])
  | .error error => (⟨base⟩, .error error)

/-! ## Commands -/

/-- The command that shows the information on a plug. -/
def infoCommand : Descriptor Plug :=
  .build "info" (fun arguments p => .ofAnswer arguments .table p.infoRows)
    [.about "Get device information and power state",
      .defaultOutput (.text .empty (.ofTemplate "\x7bresult\x7d")),
      .skipAutodetect]

/-- The command that shows the state. -/
def statusCommand : Descriptor Plug :=
  .build "status" (fun arguments p => .ofAnswer arguments PlugStatus.toOutcome p.status)
    [.about "Return the plug's power, LED and temperature"]

/-- A command that switches the plug. -/
def powerCommand (on : Bool) : Descriptor Plug :=
  .build (onOff on) (fun arguments p => .ofAnswer arguments .value (p.setPower on))
    [.about ("Power " ++ onOff on),
      .defaultOutput
        (.text (.ofTemplate ("Powering " ++ onOff on)) (.ofTemplate "\x7bresult\x7d"))]

/-- The state that the light is to be set to, if it is a text. -/
def wantedState (state : Option Json) : Option String := state.bind Json.asString?

/-- What is said before the light is set; nothing if it is only read. -/
def ledMessage (source : MessageSource) : String :=
  match wantedState (Entries.get? "state" source.arguments) with
  | some state => "Turning LED " ++ state
  | none => ""

/-- The command that sets or shows the light. -/
def ledCommand : Descriptor Plug :=
  .build "led"
    (fun arguments p =>
      .ofAnswer arguments .text (p.led (wantedState (Arguments.given? "state" arguments))))
    [.about "Set the LED, or show its state when no state is given",
      .param (((Param.argument "state" (.choice ["on", "off"])).withRequired false).withHelp
        "New LED state"),
      .defaultOutput (.text (.composed ledMessage) (.ofTemplate "LED is \x7bresult\x7d"))]

/-- The hidden command that shows the properties. -/
def propertiesCommand : Descriptor Plug :=
  .build "properties" (fun arguments p => .ofAnswer arguments .data p.propertyValues)
    [.about "Dump raw property values", .option Descriptor.hiddenOption (.bool true)]

/-- The commands of plugs. -/
def registry : Registry Plug :=
  [infoCommand, statusCommand, powerCommand true, powerCommand false, ledCommand,
    propertiesCommand].foldl Registry.register (Registry.empty.inherit embedding
      GenericDevice.registry)

/-- The type of plugs. -/
def type : DeviceType Plug where
  typeName := "Plug"
  groupName := DeviceType.groupNameOf "Plug"
  about := some "Smart power plug"
  supportedModels := ["acme.plug.v1", "acme.plug.v2"]
  registry := some registry
  connect := connect
  model p := p.base.model
  hasInfo p := p.base.info.isSome
  fetchInfo p :=
    let fetch := p.base.fetchInfo
    ⟨⟨fetch.device⟩, fetch.events, fetch.result⟩

end Plug

end Switchboard
