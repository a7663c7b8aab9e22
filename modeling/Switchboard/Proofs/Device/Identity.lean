import Switchboard.Proofs.Device.PlugRecord
import Switchboard.Proofs.Device.PropertyStore
import Switchboard.Proofs.RunningOnce

/-!
# What is known of a device

A device is connected with a hint at its model or without one. What it tells of itself is fetched
later: by the guard in front of a command that needs to know, and by the commands that show it. The
model and the information are kept side by side, and a model that is known is not replaced.

`Keeps` is what a stretch of a session does to a device: its connection stays, it tells the same of
itself, and what is known of it stays as well or is what the device tells. That is closed under one
stretch after another, so it passes from requests to methods, to the guard, to the layers around
them and to runs in turn (`RestsOn.keeps_inTurn`). Whatever is kept so keeps the invariant
`KnownAs`, which holds when the device is connected.
-/

namespace Switchboard

variable {δ : Type}

/-! ## What stays of a device -/

/-- A simulated device answers the question what it is with this text in a field. -/
def Simulator.Reports (s : Simulator) (field text : String) : Prop :=
  ∃ response, (s.send "info" .null).2 = .ok response ∧ response.get? field = some (.string text)

theorem Simulator.Reports.unique {s : Simulator} {field text text' : String}
    (h : s.Reports field text) (h' : s.Reports field text') : text = text' := by
  obtain ⟨response, hanswer, hfield⟩ := h
  obtain ⟨response', hanswer', hfield'⟩ := h'
  rw [hanswer] at hanswer'
  cases hanswer'
  rw [hfield] at hfield'
  exact Json.string.inj (Option.some.inj hfield')

namespace GenericDevice

/-- What may become of a device: nothing more is known of it, or what it tells. -/
structure Keeps (d d' : GenericDevice) : Prop where
  /-- The connection stays. -/
  connection : d'.connection = d.connection
  /-- The device tells the same of itself. -/
  tells : d'.tellsInfo = d.tellsInfo
  /-- What is known stays, or the device has been asked; then only a model that was known stays. -/
  known : (d'.model = d.model ∧ d'.info = d.info)
    ∨ (d'.model = d.model.or (some d.tellsInfo.model) ∧ d'.info = some d.tellsInfo)

theorem Keeps.refl (d : GenericDevice) : Keeps d d := ⟨rfl, rfl, Or.inl ⟨rfl, rfl⟩⟩

theorem Keeps.trans {d₁ d₂ d₃ : GenericDevice} (h : Keeps d₁ d₂) (h' : Keeps d₂ d₃) :
    Keeps d₁ d₃ where
  connection := h'.connection.trans h.connection
  tells := h'.tells.trans h.tells
  known := by
    have hknown := h'.known
    rw [h.tells] at hknown
    rcases hknown with ⟨hmodel', hinfo'⟩ | ⟨hmodel', hinfo'⟩
    · rw [hmodel', hinfo']
      exact h.known
    · refine Or.inr ⟨?_, hinfo'⟩
      rcases h.known with ⟨hmodel, -⟩ | ⟨hmodel, -⟩
      · rw [hmodel', hmodel]
      · -- asked twice, it is known after the first time
        rw [hmodel', hmodel, Option.or_assoc, Option.some_or]

theorem keeps_send (method : String) (params : Json) (d : GenericDevice) :
    Keeps d (d.send method params).1 where
  connection := rfl
  tells := by
    obtain ⟨hmodel, hfirmware⟩ := d.transport.identity_run (.send method params)
    have hmodel' : (d.send method params).1.transport.model = d.transport.model := hmodel
    have hfirmware' : (d.send method params).1.transport.firmware = d.transport.firmware :=
      hfirmware
    have hconnection : (d.send method params).1.connection = d.connection := rfl
    rw [tellsInfo, hmodel', hfirmware', hconnection, tellsInfo]
  known := Or.inl ⟨rfl, rfl⟩

theorem keeps_queryInfo (d : GenericDevice) : Keeps d d.queryInfo.1 :=
  ⟨rfl, rfl, Or.inr ⟨rfl, rfl⟩⟩

theorem Keeps.model_of_some {d d' : GenericDevice} (h : Keeps d d') {model : String}
    (hmodel : d.model = some model) : d'.model = some model := by
  rcases h.known with ⟨hmodel', -⟩ | ⟨hmodel', -⟩
  · rw [hmodel', hmodel]
  · rw [hmodel', hmodel, Option.some_or]

/-- A device that tells the same of itself is one that reports the same. -/
theorem Keeps.reports_iff {d d' : GenericDevice} (h : Keeps d d') (field text : String) :
    d'.transport.Reports field text ↔ d.transport.Reports field text := by
  obtain ⟨hmodel, hfirmware, -, -⟩ := DeviceInfo.mk.inj h.tells
  have hidentity : d'.transport.identity = d.transport.identity := by
    rw [Simulator.identity, hmodel, hfirmware, Simulator.identity]
  have hanswer : (d'.transport.send "info" .null).2 = (d.transport.send "info" .null).2 :=
    congrArg Except.ok hidentity
  rw [Simulator.Reports, hanswer, Simulator.Reports]

end GenericDevice

/-! ## Commands -/

open GenericDevice (Keeps)

/-- A rest keeps what is known of the generic device that a device rests on. -/
def KeepsBase (base : δ → GenericDevice) (rest : Rest δ) : Prop :=
  ∀ arguments device, Keeps (base device) (base (rest arguments device).device)

/-- The devices of a group rest on generic devices. -/
structure Group.RestsOn (g : Group δ) (base : δ → GenericDevice) : Prop where
  /-- Nothing is known of a device that is connected but what the connection says. -/
  connect : ∀ connection, ∃ transport,
    base (g.type.connect connection) = .ofTransport connection transport
  model : ∀ device, g.type.model device = (base device).model
  hasInfo : ∀ device, g.type.hasInfo device = (base device).info.isSome
  fetchInfo : ∀ device, Keeps (base device) (base (g.type.fetchInfo device).device)
  methods : ∀ name d, g.registry.get? name = some d → KeepsBase base d.method

/-- A command that answers with what it asked the device keeps what asking keeps. -/
theorem keepsBase_build {base : δ → GenericDevice} {α : Type} {outcome : α → Outcome}
    {answered : Arguments → δ → Answered δ α}
    (h : ∀ arguments device, Keeps (base device) (base (answered arguments device).1))
    (name : String) (declarations : List Declaration) :
    KeepsBase base (Descriptor.build name
      (fun arguments device => .ofAnswer arguments outcome (answered arguments device))
      declarations).method := by
  intro arguments device
  rw [Descriptor.build_method, Call.ofAnswer_device]
  exact h arguments device

namespace GenericDevice

theorem keepsBase_sendRaw : KeepsBase id sendRaw := by
  intro arguments d
  unfold sendRaw
  split
  · rw [Call.ofAnswer_device]
    exact keeps_send _ _ d
  · exact .refl d

theorem restsOn : (⟨type, registry⟩ : Group GenericDevice).RestsOn id where
  connect _ := ⟨_, rfl⟩
  model _ := rfl
  hasInfo _ := rfl
  fetchInfo d := d.keeps_queryInfo
  methods name d hget := by
    rcases Assembly.cases_ofGenericDevice hget with rfl | rfl
    · exact keepsBase_build (fun _ d => d.keeps_queryInfo) _ _
    · rw [rawCommand, Descriptor.build_method]
      exact keepsBase_sendRaw

end GenericDevice

namespace Plug

theorem keeps_led (state : Option String) (p : Plug) : Keeps p.base (p.led state).1.base := by
  cases state with
  | none => exact .refl p.base
  | some state =>
    -- reading the light back changes nothing
    have hbase : (p.led (some state)).1.base
        = (p.base.send "set_led" (.array [.string state])).1 := by
      unfold led
      dsimp only
      split <;> rfl
    rw [hbase]
    exact p.base.keeps_send "set_led" _

theorem keepsBase_plugCommands : ∀ d ∈ Assembly.plugCommands, KeepsBase base d.method := by
  intro d hmem
  rcases Assembly.cases_plugCommands hmem with rfl | rfl | ⟨on, rfl⟩ | rfl | rfl
  · exact keepsBase_build (fun _ p => p.base.keeps_queryInfo) _ _
  · exact keepsBase_build (fun _ p => .refl p.base) _ _
  · exact keepsBase_build (fun _ p => p.base.keeps_send "set_power" _) _ _
  · exact keepsBase_build (fun _ p => p.keeps_led _) _ _
  · exact keepsBase_build (fun _ p => .refl p.base) _ _

theorem restsOn : (⟨type, registry⟩ : Group Plug).RestsOn base where
  connect _ := ⟨_, rfl⟩
  model _ := rfl
  hasInfo _ := rfl
  fetchInfo p := p.base.keeps_queryInfo
  methods name d hget := by
    rcases Assembly.cases_ofPlug hget with hown | rfl
    · exact keepsBase_plugCommands d hown
    · -- the command that is taken over does to the base what it does to any generic device
      intro arguments p
      have hmethod : (GenericDevice.rawCommand.lift embedding).method
          = embedding.lift GenericDevice.sendRaw := rfl
      rw [hmethod]
      exact GenericDevice.keepsBase_sendRaw arguments p.base

end Plug

/-! ## Sessions -/

/-- What every run does to its device, runs in turn have done in the end. -/
theorem Call.lastDevice_relates {R : δ → δ → Prop} (refl : ∀ d, R d d)
    (trans : ∀ {d₁ d₂ d₃}, R d₁ d₂ → R d₂ d₃ → R d₁ d₃) {run : String → Rest δ}
    (h : ∀ command arguments d, R d (run command arguments d).device)
    (requests : List (String × Arguments)) (d : δ) :
    R d (lastDevice d (inTurn run requests d)) := by
  unfold lastDevice
  cases hlast : (inTurn run requests d).getLast? with
  | none => exact refl d
  | some call => exact inTurn_relates (R := R) trans h call (List.mem_of_getLast? hlast)

namespace Group

variable {g : Group δ} {base : δ → GenericDevice}

theorem RestsOn.keepsBase_core (h : g.RestsOn base) {name : String} {d : Descriptor δ}
    (hget : g.registry.get? name = some d) (context : Context) :
    KeepsBase base ((Composed.compose d context).core g.type) := by
  intro arguments device
  have hmethod := h.methods name d hget
  have hfetch := h.fetchInfo device
  unfold Composed.core Composed.autodetect
  split
  · dsimp only
    split
    · exact hmethod arguments device
    · split
      · exact hfetch.trans (hmethod arguments _)
      · exact hfetch
  · exact hmethod arguments device

variable {session : Session δ}

/-- **A run keeps what is known of the device**, whichever command it is and whatever stands around
its method. -/
theorem RestsOn.keepsBase_runOn (h : session.group.RestsOn base) (command : String) :
    KeepsBase base (session.runOn command) := by
  intro arguments device
  rw [Session.runOn_eq]
  dsimp only
  cases hget : session.group.registry.get? command with
  | none => exact .refl _
  | some d =>
    exact Layer.nest_relates (R := fun d d' => Keeps (base d) (base d')) (fun d => .refl (base d))
      Keeps.trans (h.keepsBase_core hget session.context) _ arguments device

theorem RestsOn.keeps_inTurn (h : session.group.RestsOn base)
    (requests : List (String × Arguments)) (device : δ) :
    Keeps (base device)
      (base (Call.lastDevice device (Call.inTurn session.runOn requests device))) :=
  Call.lastDevice_relates (R := fun d d' => Keeps (base d) (base d')) (fun d => .refl (base d))
    Keeps.trans h.keepsBase_runOn requests device

end Group

/-! ## What is known -/

namespace GenericDevice

/-- What is known of a device that was connected with a connection. -/
structure KnownAs (c : Connection) (d : GenericDevice) : Prop where
  /-- The address, the token, the hint and the debug level are those of the connection. -/
  connection : d.connection = c
  /-- The model is the one that was hinted at. -/
  hinted : ∀ hint, c.model = some hint → d.model = some hint
  /-- Without a hint the model is known when the information is. -/
  unhinted : c.model = none → (d.model.isSome = true ↔ d.info.isSome = true)
  /-- Without a hint the model is what the device reports. -/
  reported : c.model = none → ∀ model, d.model = some model →
    d.transport.Reports "model" model
  /-- The information is what the device reports, and where it was asked. -/
  informed : ∀ info, d.info = some info →
    d.transport.Reports "model" info.model
      ∧ d.transport.Reports "fw_ver" info.firmwareVersion
      ∧ d.transport.Reports "hw_ver" info.hardwareVersion
      ∧ info.address = c.address

theorem knownAs_ofTransport (connection : Connection) (transport : Simulator) :
    (ofTransport connection transport).KnownAs connection where
  connection := rfl
  hinted _ hhint := hhint
  unhinted hnone := by
    have hmodel : (ofTransport connection transport).model = none := hnone
    have hinfo : (ofTransport connection transport).info = none := rfl
    rw [hmodel, hinfo]
    exact iff_of_false Bool.false_ne_true Bool.false_ne_true
  reported hnone model hmodel := by
    have hmodel' : connection.model = some model := hmodel
    rw [hnone] at hmodel'
    cases hmodel'
  informed info hinfo := by cases hinfo

/-- What a device tells of itself is what it reports. -/
theorem reports_tellsInfo (d : GenericDevice) :
    d.transport.Reports "model" d.tellsInfo.model
      ∧ d.transport.Reports "fw_ver" d.tellsInfo.firmwareVersion
      ∧ d.transport.Reports "hw_ver" d.tellsInfo.hardwareVersion :=
  ⟨⟨_, rfl, rfl⟩, ⟨_, rfl, rfl⟩, ⟨_, rfl, rfl⟩⟩

/-- **The invariant is kept.** -/
theorem KnownAs.keeps {connection : Connection} {d d' : GenericDevice} (h : d.KnownAs connection)
    (hkeeps : Keeps d d') : d'.KnownAs connection where
  connection := hkeeps.connection.trans h.connection
  hinted hint hhint := hkeeps.model_of_some (h.hinted hint hhint)
  unhinted hnone := by
    rcases hkeeps.known with ⟨hmodel, hinfo⟩ | ⟨hmodel, hinfo⟩
    · rw [hmodel, hinfo]
      exact h.unhinted hnone
    · -- asked, the device has told both
      rw [hmodel, hinfo, Option.isSome_or]
      exact iff_of_true (Bool.or_true _) rfl
  reported hnone model hsome := by
    rw [hkeeps.reports_iff]
    rcases hkeeps.known with ⟨hmodel, -⟩ | ⟨hmodel, -⟩
    · exact h.reported hnone model (hmodel.symm.trans hsome)
    · rw [hmodel, Option.or_eq_some_iff] at hsome
      rcases hsome with hold | ⟨-, htold⟩
      · exact h.reported hnone model hold
      · rw [← Option.some.inj htold]
        exact d.reports_tellsInfo.1
  informed info hsome := by
    rw [hkeeps.reports_iff, hkeeps.reports_iff, hkeeps.reports_iff]
    rcases hkeeps.known with ⟨-, hinfo⟩ | ⟨-, hinfo⟩
    · exact h.informed info (hinfo.symm.trans hsome)
    · have htold : d.tellsInfo = info := Option.some.inj (hinfo.symm.trans hsome)
      obtain ⟨hmodel, hfirmware, hhardware⟩ := d.reports_tellsInfo
      rw [← htold]
      exact ⟨hmodel, hfirmware, hhardware, congrArg Connection.address h.connection⟩

/-- Information that is known does not change, as the device would tell the same again. -/
theorem KnownAs.info_of_some {connection : Connection} {d d' : GenericDevice}
    (h : d.KnownAs connection) (hkeeps : Keeps d d') {info : DeviceInfo}
    (hsome : d.info = some info) : d'.info = some info := by
  rcases hkeeps.known with ⟨-, hinfo⟩ | ⟨-, hinfo⟩
  · rw [hinfo, hsome]
  · obtain ⟨hmodel, hfirmware, hhardware, haddress⟩ := h.informed info hsome
    obtain ⟨hmodel', hfirmware', hhardware'⟩ := d.reports_tellsInfo
    have haddress' : d.tellsInfo.address = info.address := by
      rw [haddress, ← h.connection]
      rfl
    have hsame : d.tellsInfo = info := by
      obtain ⟨model, firmware, hardware, address⟩ := info
      rw [tellsInfo, DeviceInfo.mk.injEq]
      exact ⟨hmodel'.unique hmodel, hfirmware'.unique hfirmware, hhardware'.unique hhardware,
        haddress'⟩
    rw [hinfo, hsame]

end GenericDevice

/-! ## The identity of a device -/

namespace Group

/--
The devices of a group keep their identity.

Let a device be connected, and any commands be run in the session. The model that the group knows
and whether it knows the information are read off the generic device; what is known of that is known
as the invariant has it; it reports what it reported when it was connected; and what is known stays
known, whatever else is run.
-/
def KeepsIdentity (g : Group δ) (base : δ → GenericDevice) : Prop :=
  ∀ (context : Context) (connection : Connection) (session : Session δ),
    g.connect context connection = .ok session →
      ∀ requests more : List (String × Arguments),
        let device :=
          Call.lastDevice session.device (Call.inTurn session.runOn requests session.device)
        let later := Call.lastDevice device (Call.inTurn session.runOn more device)
        g.type.model device = (base device).model
          ∧ g.type.hasInfo device = (base device).info.isSome
          ∧ (base device).KnownAs { connection with debug := context.debug }
          ∧ (∀ field text, (base device).transport.Reports field text
            ↔ (base session.device).transport.Reports field text)
          ∧ (∀ model, (base device).model = some model → (base later).model = some model)
          ∧ ∀ info, (base device).info = some info → (base later).info = some info

theorem RestsOn.keepsIdentity {g : Group δ} {base : δ → GenericDevice} (h : g.RestsOn base) :
    g.KeepsIdentity base := by
  intro context connection session hconnect requests more device later
  have hsession := eq_of_connect hconnect
  have hrests : session.group.RestsOn base := by rwa [hsession]
  have hconnected : (base session.device).KnownAs { connection with debug := context.debug } := by
    obtain ⟨transport, htransport⟩ := h.connect { connection with debug := context.debug }
    rw [hsession, htransport]
    exact GenericDevice.knownAs_ofTransport _ transport
  have hkeeps : Keeps (base session.device) (base device) :=
    hrests.keeps_inTurn requests session.device
  have hlater : Keeps (base device) (base later) := hrests.keeps_inTurn more device
  have hknown := hconnected.keeps hkeeps
  exact ⟨h.model device, h.hasInfo device, hknown, hkeeps.reports_iff,
    fun model hmodel => hlater.model_of_some hmodel,
    fun info hinfo => hknown.info_of_some hlater hinfo⟩

/-- **Generic devices and plugs keep their identity.** -/
theorem identity_kept :
    (⟨GenericDevice.type, GenericDevice.registry⟩ : Group GenericDevice).KeepsIdentity id
      ∧ (⟨Plug.type, Plug.registry⟩ : Group Plug).KeepsIdentity Plug.base :=
  ⟨GenericDevice.restsOn.keepsIdentity, Plug.restsOn.keepsIdentity⟩

/-- A plug is connected with a hint that is not its model. After a request that fails, a command
that there is not and the one that asks what it is, its model is the hint still, and the information
on it tells what it is. -/
theorem identity_kept_hint :
    let g : Group Plug := ⟨Plug.type, Plug.registry⟩
    let connection : Connection :=
      ⟨"10.0.0.5", "00112233445566778899aabbccddeeff", some "acme.plug.v2", 0⟩
    let session : Session Plug := ⟨g, ⟨2, none⟩, Plug.connect { connection with debug := 2 }⟩
    let requests : List (String × Arguments) := [("raw-command", []), ("dim", []), ("info", [])]
    let p := Call.lastDevice session.device (Call.inTurn session.runOn requests session.device)
    g.connect ⟨2, none⟩ connection = .ok session
      ∧ p.base.connection = { connection with debug := 2 }
      ∧ Plug.type.model p = some "acme.plug.v2"
      ∧ p.base.info = some ⟨"acme.plug.v1", "2.1.0", "simulated", "10.0.0.5"⟩
      ∧ p.base.transport.Reports "model" "acme.plug.v1" := by
  intro g connection session requests p
  have hsound : connection.Sound := ⟨by decide, by decide⟩
  have hconnect : g.connect ⟨2, none⟩ connection = .ok session :=
    connect_of_validate hsound.validate ⟨2, none⟩
  obtain ⟨hmodel, -, hknown, -⟩ := identity_kept.2 ⟨2, none⟩ connection session hconnect requests []
  have hinfo : p.base.info = some ⟨"acme.plug.v1", "2.1.0", "simulated", "10.0.0.5"⟩ := by
    dsimp only [p]
    rw [Session.runOn_eq]
    rfl
  exact ⟨hconnect, hknown.connection, hmodel.trans (hknown.hinted "acme.plug.v2" rfl), hinfo,
    (hknown.informed _ hinfo).1⟩

end Group

end Switchboard
