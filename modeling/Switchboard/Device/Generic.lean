import Switchboard.Device.Simulator
import Switchboard.DeviceType

/-!
# Generic devices

The device type that all others embed. It knows a device by its connection and by what the device
tells of itself, and has two commands: one shows that information, the other sends any request.
-/

namespace Switchboard

/-- What a device tells of itself, and where it was asked. -/
structure DeviceInfo where
  model : String
  firmwareVersion : String
  hardwareVersion : String
  address : String
  deriving DecidableEq, Repr

namespace DeviceInfo

/-- A text of a device's answer. -/
def field (response : Json) (name : String) : Except DeviceError String :=
  match (response.get? name).bind Json.asString? with
  | some s => .ok s
  | none => .error (.communication ("info response is missing '" ++ name ++ "'"))

/-- The information in a device's answer. -/
def ofResponse (response : Json) (address : String) : Except DeviceError DeviceInfo := do
  let model ← field response "model"
  let firmwareVersion ← field response "fw_ver"
  let hardwareVersion ← field response "hw_ver"
  return { model, firmwareVersion, hardwareVersion, address }

/-- The information in rows. -/
def rows (info : DeviceInfo) : List (List String) :=
  [["Model:", info.model], ["Hardware version:", info.hardwareVersion],
    ["Firmware version:", info.firmwareVersion], ["Address:", info.address]]

/-- The information as a JSON value. -/
def toJson (info : DeviceInfo) : Json :=
  .object
    [("address", .string info.address), ("firmware_version", .string info.firmwareVersion),
      ("hardware_version", .string info.hardwareVersion), ("model", .string info.model)]

/-- The information as the outcome of a command. -/
def toOutcome (info : DeviceInfo) : Outcome :=
  .record (info.model ++ " at " ++ info.address) (Table.aligned info.rows) info.toJson

end DeviceInfo

/-- A call that ends with the answer to a request. -/
def Call.ofAnswer {δ α : Type} (arguments : Arguments) (outcome : α → Outcome) :
    Answered δ α → Call δ
  | (device, .ok a) => .ended device arguments (.ok (outcome a))
  | (device, .error error) => .ended device arguments (.error (.device error))

/-- A request leaves the device as it answered, whatever the answer was. -/
theorem Call.ofAnswer_device {δ α : Type} (arguments : Arguments) (outcome : α → Outcome)
    (answered : Answered δ α) : (Call.ofAnswer arguments outcome answered).device = answered.1 := by
  obtain ⟨device, _ | _⟩ := answered <;> rfl

/-- A device at the end of a connection. -/
structure GenericDevice where
  connection : Connection
  transport : Simulator
  model : Option String
  info : Option DeviceInfo

namespace GenericDevice

/-- A device that is reached through a transport. -/
def ofTransport (connection : Connection) (transport : Simulator) : GenericDevice :=
  ⟨connection, transport, connection.model, none⟩

/-- Connects to a device about which nothing is known. -/
def connect (connection : Connection) : GenericDevice :=
  ofTransport connection (.ofIdentity "generic.device.v1" "1.0.0")

/-- Sends a request. -/
def send (method : String) (params : Json) (d : GenericDevice) : Answered GenericDevice Json :=
  let (transport, answer) := d.transport.send method params
  ({ d with transport }, answer)

/-- Keeps information that was fetched; a model that is known already stays. -/
def identify (info : DeviceInfo) (d : GenericDevice) : GenericDevice :=
  { d with model := d.model.or (some info.model), info := some info }

/-- Fetches the information on the device. -/
def queryInfo (d : GenericDevice) : Answered GenericDevice DeviceInfo :=
  let (d, answer) := d.send "info" .null
  match answer.bind fun response => DeviceInfo.ofResponse response d.connection.address with
  | .ok info => (d.identify info, .ok info)
  | .error error => (d, .error error)

/-- `queryInfo`, when only the device afterwards is of interest. -/
def fetchInfo (d : GenericDevice) : Fetch GenericDevice :=
  let (d, answer) := d.queryInfo
  ⟨d, [], answer.map fun _ => ()⟩

/-- The command that shows the information on a device. -/
def infoCommand : Descriptor GenericDevice :=
  .build "info" (fun arguments d => .ofAnswer arguments DeviceInfo.toOutcome d.queryInfo)
    [.about "Get device information",
      .defaultOutput (.text .empty (.ofTemplate "\x7bresult\x7d")),
      .skipAutodetect]

/-- Sends the request that the arguments name. -/
def sendRaw : Rest GenericDevice := fun arguments d =>
  match Arguments.requireText "command" arguments with
  | .ok method =>
    let params := (Arguments.given? "parameters" arguments).getD (.array [])
    .ofAnswer arguments .value (d.send method params)
  | .error error => .ended d arguments (.error (.usage error))

/-- The parameters of the command that sends any request. -/
def rawParams : List Param :=
  [(Param.argument "command" .text).withHelp "Method name",
    (((Param.argument "parameters" .literal).withRequired false).withDefault "[]").withHelp
      "Parameters, as a literal such as \"['power']\""]

/-- The command that sends any request. -/
def rawCommand : Descriptor GenericDevice :=
  .build "raw-command" sendRaw <|
    [.about "Send a raw command to the device"] ++ rawParams.map .param ++
      [.decorator (.transparent "timing"),
        .defaultOutput
          (.text
            (.ofTemplate "Sending cmd \x7bcommand\x7d with params \x7bparameters\x7d")
            (.ofTemplate "\x7bresult\x7d")),
        .skipAutodetect]

/-- The commands of every device. -/
def registry : Registry GenericDevice := (Registry.empty.register infoCommand).register rawCommand

/-- The type of generic devices. -/
def type : DeviceType GenericDevice where
  typeName := "GenericDevice"
  groupName := "device"
  about := some "Any device speaking the request/response protocol"
  supportedModels := []
  registry := some registry
  connect := connect
  model := model
  hasInfo d := d.info.isSome
  fetchInfo := fetchInfo

end GenericDevice

end Switchboard
