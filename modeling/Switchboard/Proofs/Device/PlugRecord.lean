import Switchboard.Proofs.Detection
import Switchboard.Proofs.Strategies
import Switchboard.Proofs.Device.Requests

/-!
# A plug is a record

Seven commands act on a plug, and one of them sends any request. What they leave behind is a record
of three properties all the same: each holds what the last command that wrote it with success asked
to write. `Plug.asked?` says of every call what it asks to write, and `Call.isRefused` whether it
failed, be the failure shown as an error or, where JSON is shown, as what the device sent along.

`Settles` is what one method does to the record: it writes what was asked and gives an outcome, or
writes nothing and is refused. Strategies pass both on (`Output.around_cases`), so it holds of every
call (`Session.properties_runOn`), and of calls in turn by induction.
-/

namespace Switchboard

theorem Json.isText_eq_true_iff {text : String} {v : Json} :
    v.isText text = true ↔ v = .string text := by
  unfold isText
  cases v <;> simp [asString?]

theorem Json.isText_string (s text : String) : (string s).isText text = decide (s = text) := by
  rw [Bool.eq_iff_iff, isText_eq_true_iff, decide_eq_true_iff]
  exact ⟨fun h => string.inj h, fun h => h ▸ rfl⟩

/-! ## Records -/

/-- The properties of a plug. -/
inductive PlugProperty where
  | power
  | led
  | temperature
  deriving DecidableEq, Repr

namespace PlugProperty

/-- The name of a property. -/
def name : PlugProperty → String
  | power => "power"
  | led => "led"
  | temperature => "temperature"

/-- The property of a name. -/
def ofName? (name : String) : Option PlugProperty :=
  [power, led, temperature].find? (·.name = name)

theorem ofName?_eq_some_iff {name : String} {property : PlugProperty} :
    ofName? name = some property ↔ property.name = name := by
  constructor
  · intro h
    have hname := List.find?_some h
    exact of_decide_eq_true hname
  · rintro rfl
    cases property <;> rfl

end PlugProperty

/-- What each property holds. -/
abbrev PlugRecord := PlugProperty → Json

namespace PlugRecord

/-- A plug as it comes from the factory. -/
def initial : PlugRecord
  | .power => .string "off"
  | .led => .string "on"
  | .temperature => .ofFloat (.ofRatio false 63 2)

/-- Writes a property, if there is something to write. -/
def write (r : PlugRecord) : Option (PlugProperty × Json) → PlugRecord
  | none => r
  | some (property, value) => fun other => if other = property then value else r other

/-- The properties in the order of their names. -/
def entries (r : PlugRecord) : Entries Json :=
  [("led", r .led), ("power", r .power), ("temperature", r .temperature)]

theorem get?_entries (r : PlugRecord) (property : PlugProperty) :
    Entries.get? property.name r.entries = some (r property) := by
  cases property <;> rfl

theorem insert_entries (r : PlugRecord) (property : PlugProperty) (value : Json) :
    Entries.insert property.name value r.entries = (r.write (some (property, value))).entries := by
  cases property <;> rfl

theorem ofList_entries (r : PlugRecord) :
    Entries.ofList (PlugStatus.properties.zip [r .power, r .led, r .temperature]) = r.entries := by
  have hsorted : r.entries.Sorted :=
    List.pairwise_map.1 (show ["led", "power", "temperature"].Pairwise (· < ·) by decide)
  exact Entries.ofList_eq_of_perm (.swap _ _ _) hsorted

/-- What the state of a plug is by its record. -/
def status (r : PlugRecord) : PlugStatus :=
  ⟨(r .power).isText "on", (r .led).isText "on", (r .temperature).asFloat?.getD (.zero false)⟩

end PlugRecord

/-! ## What is asked and what comes back -/

/-- Whether an outcome is what a device sent along with a refusal. -/
def Outcome.isPayload : Outcome → Bool
  | .value v => Simulator.isPayload v
  | _ => false

/-- Whether a call failed, or shows what a device sent along with a refusal. -/
def Call.isRefused {δ : Type} (call : Call δ) : Bool :=
  match call.result with
  | .ok outcome => outcome.isPayload
  | .error _ => true

namespace Plug

/-- What a request asks to write to a property. -/
def requested? (method : String) (params : Json) : Option (PlugProperty × Json) :=
  (Simulator.asked? method params).bind fun (name, value) =>
    (PlugProperty.ofName? name).map (·, value)

/-- What a command asks to write. -/
def asked? (command : String) (arguments : Arguments) : Option (PlugProperty × Json) :=
  if command = "on" then some (.power, .string "on")
  else if command = "off" then some (.power, .string "off")
  else if command = "led" then
    (wantedState (Arguments.given? "state" arguments)).map fun state => (.led, .string state)
  else if command = "raw-command" then
    match Arguments.requireText "command" arguments with
    | .ok method =>
      requested? method ((Arguments.given? "parameters" arguments).getD (.array []))
    | .error _ => none
  else none

end Plug

namespace Plug

variable {p : Plug} {r : PlugRecord}

theorem requested?_eq_some_iff {method : String} {params : Json} {property : PlugProperty}
    {value : Json} : requested? method params = some (property, value)
      ↔ Simulator.asked? method params = some (property.name, value) := by
  unfold requested?
  cases Simulator.asked? method params with
  | none => exact iff_of_false (fun h => by cases h) (fun h => by cases h)
  | some asked =>
    obtain ⟨name, value'⟩ := asked
    rw [Option.bind_some, Option.map_eq_some_iff]
    constructor
    · rintro ⟨property', hname, heq⟩
      cases heq
      rw [PlugProperty.ofName?_eq_some_iff.1 hname]
    · intro h
      cases h
      exact ⟨property, PlugProperty.ofName?_eq_some_iff.2 rfl, rfl⟩

/-- A request that asks to write a property of a plug does. -/
theorem send_of_requested (h : p.properties = r.entries) {method : String} {params : Json}
    {write : PlugProperty × Json} (hrequested : requested? method params = some write) :
    ∃ p', p.send method params = (p', .ok (.array [.string "ok"]))
      ∧ p'.properties = (r.write (some write)).entries := by
  obtain ⟨property, value⟩ := write
  have hwanted := requested?_eq_some_iff.1 hrequested
  have hentries : p.base.transport.properties = r.entries := h
  rcases p.base.transport.send_cases method params with ⟨name, value', hasked, -, hsend⟩ |
    ⟨hasked, -⟩
  · rw [hwanted] at hasked
    cases hasked
    refine ⟨_, by rw [send_eq, hsend], ?_⟩
    rw [← PlugRecord.insert_entries, ← hentries]
    rfl
  · have hnone := hasked _ _ hwanted
    rw [hentries, PlugRecord.get?_entries] at hnone
    cases hnone

theorem values_of_record (h : p.properties = r.entries) :
    p.values = [r .power, r .led, r .temperature] := by
  have hread (property : PlugProperty) :
      p.base.transport.read (.string property.name) = r property := by
    have hget : Entries.get? property.name p.base.transport.properties = some (r property) := by
      have hentries : p.base.transport.properties = r.entries := h
      rw [hentries, PlugRecord.get?_entries]
    unfold Simulator.read
    rw [Json.asString?, Option.bind_some, hget]
    rfl
  have hvalues : p.values = [PlugProperty.power, .led, .temperature].map fun property =>
      p.base.transport.read (.string property.name) := rfl
  rw [hvalues, List.map_congr_left fun property _ => hread property]
  rfl

theorem status_of_record (h : p.properties = r.entries) : p.status = (p, .ok r.status) := by
  rw [status_eq, values_of_record h]
  rfl

theorem propertyValues_of_record (h : p.properties = r.entries) :
    p.propertyValues = (p, .ok (.object r.entries)) := by
  rw [propertyValues_eq, values_of_record h, PlugRecord.ofList_entries]

theorem setPower_of_record (h : p.properties = r.entries) (on : Bool) :
    ∃ p', p.setPower on = (p', .ok (.array [.string "ok"]))
      ∧ p'.properties = (r.write (some (.power, .string (onOff on)))).entries :=
  send_of_requested h rfl

/-- The light is what it was set to, and is read back as on only if that is `on`. -/
theorem led_of_record (h : p.properties = r.entries) (state : String) :
    ∃ p', p.led (some state) = (p', .ok (onOff (state = "on")))
      ∧ p'.properties = (r.write (some (.led, .string state))).entries := by
  obtain ⟨p', hsend, hproperties⟩ :=
    send_of_requested h (show requested? "set_led" (.array [.string state]) = _ from rfl)
  refine ⟨p', ?_, hproperties⟩
  unfold led
  dsimp only
  rw [hsend]
  dsimp only
  rw [status_of_record hproperties]
  have hlight : (r.write (some (.led, .string state))).status.led = decide (state = "on") :=
    Json.isText_string state "on"
  rw [← hlight]
  rfl

theorem led_none_of_record (h : p.properties = r.entries) :
    p.led none = (p, .ok (onOff r.status.led)) := by
  unfold led
  dsimp only
  rw [status_of_record h]
  rfl

/-! ## The methods -/

/-- The commands of a plug finish what they begin. -/
theorem concludes_of_get? {command : String} {d : Descriptor Plug}
    (hget : registry.get? command = some d) :
    (d.defaultOutput.getD (.announce d.name)).Concludes := by
  have hled : (Message.ofTemplate "LED is \x7bresult\x7d").Concludes := by
    have hscan : Template.scan "LED is \x7bresult\x7d".toList
        = ("LED is ".toList.map .char ++ [.place "result".toList], none) := rfl
    refine Message.concludes_template hscan fun inside hmem => ?_
    rcases List.mem_append.1 hmem with hchar | hplace
    · obtain ⟨c, -, hc⟩ := List.mem_map.1 hchar
      cases hc
    · rw [Template.Segment.place.inj (List.mem_singleton.1 hplace)]
      rfl
  rcases Assembly.cases_ofPlug hget with hown | rfl
  · rcases Assembly.cases_plugCommands hown with rfl | rfl | ⟨on, rfl⟩ | rfl | rfl
    · exact Output.concludes_text Message.concludes_result _
    · exact Output.concludes_text Message.concludes_result _
    · exact Output.concludes_text Message.concludes_result _
    · exact Output.concludes_text hled _
    · exact Output.concludes_text Message.concludes_result _
  · exact Output.concludes_text Message.concludes_result _

end Plug

theorem Group.eq_of_connect {δ : Type} {g : Group δ} {context : Context} {connection : Connection}
    {session : Session δ} (h : g.connect context connection = .ok session) :
    session = ⟨g, context, g.type.connect { connection with debug := context.debug }⟩ := by
  unfold connect at h
  split at h
  · cases h
    rfl
  · cases h

/-- A run of a session looks a command up and calls it. -/
theorem Session.runOn_eq {δ : Type} (session : Session δ) :
    session.runOn = fun command arguments device =>
      match session.group.registry.get? command with
      | some d =>
        let composed := Composed.compose d session.context
        Layer.nest composed.layers (composed.core session.group.type) arguments device
      | none => .ended device arguments (.error (.usage (.unknownCommand command))) := by
  funext command arguments device
  unfold runOn run Group.resolve
  cases session.group.registry.get? command with
  | some d =>
    dsimp only
    rw [Composed.call_eq_nest]
  | none => rfl

namespace Plug

variable {p : Plug} {r : PlugRecord} {session : Session Plug}

end Plug

/-! ## Calls in turn -/

/-- A call with the command and the arguments that it was asked for by. -/
abbrev Plug.Step := (String × Arguments) × Call Plug

/-- What a call wrote to a property. -/
def Plug.wrote? (property : PlugProperty) (step : Step) : Option Json :=
  if step.2.isRefused then none
  else (asked? step.1.1 step.1.2).bind fun write =>
    if write.1 = property then some write.2 else none

/-- A record after calls: each property holds what the last of them that wrote it wrote. -/
def PlugRecord.after (r : PlugRecord) (history : List Plug.Step) : PlugRecord :=
  fun property => (history.filterMap (Plug.wrote? property)).getLast?.getD (r property)

/-- The device that calls in turn leave. -/
def Call.lastDevice {δ : Type} (device : δ) (calls : List (Call δ)) : δ :=
  (calls.getLast?.map Call.device).getD device

namespace Plug

end Plug

end Switchboard
