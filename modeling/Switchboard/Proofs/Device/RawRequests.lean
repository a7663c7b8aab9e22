import Switchboard.Proofs.Announcement
import Switchboard.Proofs.MachineReadable

/-!
# Requests that are passed on

The command that sends any request is given a method and a literal. The value of the literal goes
two ways: the method of the command asks for it as an argument, for which null counts as not given,
and the announcement takes it as it is. So what is sent is what is announced, except that for null
an empty array is sent (`RawCall`).

How many requests a call sends cannot be read off its end, as some leave the device as it was. So
the command is written once more for any devices and any way to send (`sendRawBy`): such a method
reaches a device in this way only. With a way to send that leaves a mark on a watched device, the
marks of a call are its requests.
-/

namespace Switchboard

open CommandLine

variable {δ : Type}

/-! ## Ways to send -/

/-- A request to a device. -/
structure Request where
  method : String
  params : Json

/-- A way to send requests to devices. -/
abbrev Sender (δ : Type) := String → Json → δ → Answered δ Json

/-- The same way to send, with each request left as a mark. -/
def Sender.watched (send : Sender δ) : Sender (Watched Request δ) := fun method params w =>
  let (device, answer) := send method params w.device
  (⟨device, w.marks ++ [⟨method, params⟩]⟩, answer)

/-! ## Strategies -/

namespace Output

/-- After a first message that can be made the rest is called once. -/
theorem around_text_of_ok {pre : Message} (post : Message) {arguments : Arguments}
    {message : String} (h : pre.render ⟨arguments, none⟩ = .ok message) (rest : Rest δ)
    (device : δ) :
    ((text pre post).layer.around rest arguments device).device = (rest arguments device).device
      ∧ said message <+: ((text pre post).layer.around rest arguments device).events := by
  have hcall : (text pre post).layer.around rest arguments device
      = (textCourse pre post arguments).run rest device := rfl
  rw [hcall]
  refine ⟨(textCourse_run_of_ok post h rest device).1, ?_⟩
  rw [textCourse, h]
  dsimp only
  rw [say_run]
  exact List.prefix_append _ _

theorem around_text_of_error {pre : Message} (post : Message) {arguments : Arguments}
    {error : UsageError} (h : pre.render ⟨arguments, none⟩ = .error error) (rest : Rest δ)
    (device : δ) :
    (text pre post).layer.around rest arguments device
      = .ended device arguments (.error (.usage error)) :=
  textCourse_run_of_error h rest device

theorem around_json_device (pretty : Bool) (rest : Rest δ) (arguments : Arguments) (device : δ) :
    ((json pretty).layer.around rest arguments device).device = (rest arguments device).device :=
  (shown_around pretty rest arguments device).device_eq

end Output

namespace GenericDevice

/-- The method of the command that sends any request, on any device and with any way to send. -/
def sendRawBy (send : Sender δ) : Rest δ := fun arguments d =>
  match Arguments.requireText "command" arguments with
  | .ok method =>
    let params := (Arguments.given? "parameters" arguments).getD (.array [])
    .ofAnswer arguments .value (send method params d)
  | .error error => .ended d arguments (.error (.usage error))

/-- The command that sends any request, on any device and with any way to send. -/
def rawCommandBy (send : Sender δ) : Descriptor δ := { rawCommand with method := sendRawBy send }

theorem rawCommandBy_send : rawCommandBy GenericDevice.send = rawCommand := rfl

theorem lift_rawCommand : rawCommand.lift Plug.embedding = rawCommandBy Plug.send := by
  have hmethod : Plug.embedding.lift sendRaw = sendRawBy Plug.send := by
    funext arguments p
    unfold Embedding.lift sendRaw sendRawBy
    cases Arguments.requireText "command" arguments with
    | error error => rfl
    | ok method => exact Call.onDevice_ofAnswer (Plug.embedding.put · p) arguments .value _
  rw [rawCommandBy, ← hmethod]
  rfl

theorem simulates_sendRawBy (send : Sender δ) :
    Simulates Watched.device (sendRawBy send.watched) (sendRawBy send) := by
  intro arguments w
  unfold sendRawBy
  cases Arguments.requireText "command" arguments with
  | error error => rfl
  | ok method => exact Call.onDevice_ofAnswer Watched.device arguments .value _

theorem sendRawBy_eq {arguments : Arguments} {method : String}
    (hmethod : Arguments.requireText "command" arguments = .ok method) (send : Sender δ)
    (d : δ) :
    sendRawBy send arguments d
      = .ofAnswer arguments .value
          (send method ((Arguments.given? "parameters" arguments).getD (.array [])) d) := by
  unfold sendRawBy
  rw [hmethod]

/-! ## What a call does -/

/-- The arguments of a request that is asked for by a method and the value of a literal. -/
def rawArguments (method : String) (literal : Json) : Arguments :=
  [("command", .string method), ("parameters", literal)]

/-- The line that announces a request. -/
def rawAnnouncement (method : String) (literal : Json) : String :=
  Text.trimString ("Sending cmd " ++ method ++ " with params " ++ literal.plainText)

/-- What a call of the command does to a watched device, given a method and the value of a
literal. -/
structure RawCall (context : Context) (method : String) (literal : Json)
    (call : Call (Watched Request δ)) : Prop where
  /-- One request is sent, unless the context has a first message that cannot be made. -/
  sends : (∀ pre post, context.output = some (.text pre post) →
      ∃ message, pre.render ⟨rawArguments method literal, none⟩ = .ok message) →
    ∃ params, call.device.marks = [⟨method, params⟩]
      ∧ (literal ≠ .null → params = literal) ∧ (literal = .null → params = .array [])
  /-- The command's own first message tells the method and the value of the literal. -/
  announces : context.output = none →
    call.events.head? = some (.line (rawAnnouncement method literal))
  /-- A first message of the context is filled with the method and the value of the literal. -/
  announces_text : ∀ {pre post : Message} {message : String},
    context.output = some (.text pre post) →
    pre.render ⟨rawArguments method literal, none⟩ = .ok message →
    Output.said message <+: call.events
  /-- One that cannot be made ends the call before anything has happened. -/
  refuses : ∀ {pre post : Message} {error : UsageError},
    context.output = some (.text pre post) →
    pre.render ⟨rawArguments method literal, none⟩ = .error error →
    call.device.marks = [] ∧ call.events = [] ∧ call.result = .error (.usage error)

theorem render_rawAnnouncement (method : String) (literal : Json) :
    (Message.ofTemplate "Sending cmd \x7bcommand\x7d with params \x7bparameters\x7d").render
        ⟨rawArguments method literal, none⟩
      = .ok ("Sending cmd " ++ method ++ " with params " ++ literal.plainText) := by
  have hfill : Template.fill (MessageSource.field? ⟨rawArguments method literal, none⟩)
      (Template.scan "Sending cmd \x7bcommand\x7d with params \x7bparameters\x7d".toList).1
        = .ok ("Sending cmd ".toList ++ (method.toList
          ++ (" with params ".toList ++ (literal.plainText.toList ++ [])))) := rfl
  refine Template.render_eq_ok_iff.2 ⟨rfl, hfill.trans ?_⟩
  simp

theorem said_rawAnnouncement (method : String) (literal : Json) :
    Output.said ("Sending cmd " ++ method ++ " with params " ++ literal.plainText)
      = [.line (rawAnnouncement method literal)] := by
  have hhead : ∃ text, ("Sending cmd " ++ method ++ " with params " ++ literal.plainText).toList
      = 'S' :: text := by
    simp only [String.toList_append]
    exact ⟨_, rfl⟩
  obtain ⟨text, htext⟩ := hhead
  exact Output.said_of_head htext (by decide)

theorem output_rawCommand {context : Context} (h : context.output = none) :
    Composed.output rawCommand context
      = .text (.ofTemplate "Sending cmd \x7bcommand\x7d with params \x7bparameters\x7d")
        (.ofTemplate "\x7bresult\x7d") := by
  rw [Composed.output, h]
  rfl

theorem call_rawCommandBy (send : Sender δ) (context : Context) (type : DeviceType δ) :
    (Composed.compose (rawCommandBy send) context).call type
      = (Composed.output rawCommand context).layer.around (sendRawBy send) :=
  Composed.call_of_transparent (List.forall_mem_singleton.2 ⟨"timing", rfl⟩) context type

/-- Once it is reached, the method sends one request; null counts as not given. -/
theorem marks_sendRawBy (send : Sender δ) (method : String) (literal : Json) (d : δ) :
    ∃ params, (sendRawBy send.watched (rawArguments method literal) (.fresh d)).device.marks
        = [⟨method, params⟩]
      ∧ (literal ≠ .null → params = literal) ∧ (literal = .null → params = .array []) := by
  have hmethod : Arguments.requireText "command" (rawArguments method literal) = .ok method := rfl
  have hgiven : Arguments.given? "parameters" (rawArguments method literal)
      = (some literal).filter (!·.isNull) := rfl
  rw [sendRawBy_eq hmethod, hgiven, Call.ofAnswer_device]
  -- what is sent is the literal, filtered and then replaced by the empty array
  refine ⟨_, rfl, ?_, ?_⟩
  · intro hne
    cases literal with
    | null => exact absurd rfl hne
    | _ => rfl
  · rintro rfl
    rfl

/-- **What a call of the command does**, whatever the strategy of the context is. -/
theorem rawCall_compose (send : Sender δ) (context : Context) (method : String) (literal : Json)
    (type : DeviceType (Watched Request δ)) (d : δ) :
    RawCall context method literal
      ((Composed.compose (rawCommandBy send.watched) context).call type
        (rawArguments method literal) (.fresh d)) := by
  rw [call_rawCommandBy]
  have hmarks := marks_sendRawBy send method literal d
  cases houtput : context.output with
  | none =>
    obtain ⟨hdevice, hsaid⟩ := Output.around_text_of_ok (.ofTemplate "\x7bresult\x7d")
      (render_rawAnnouncement method literal) (sendRawBy send.watched) (.fresh d)
    rw [output_rawCommand houtput]
    refine ⟨fun _ => ?_, fun _ => ?_, fun h => ?_, fun h => ?_⟩
    · rw [hdevice]
      exact hmarks
    · rw [said_rawAnnouncement] at hsaid
      obtain ⟨events, hevents⟩ := hsaid
      rw [← hevents]
      rfl
    · cases houtput.symm.trans h
    · cases houtput.symm.trans h
  | some override =>
    have hoverride : Composed.output rawCommand context = override := by
      rw [Composed.output, houtput]
      rfl
    rw [hoverride]
    cases override with
    | json pretty =>
      refine ⟨fun _ => ?_, fun h => ?_, fun h => ?_, fun h => ?_⟩
      · -- JSON has no first message to be refused
        rw [Output.around_json_device]
        exact hmarks
      · cases houtput.symm.trans h
      · cases houtput.symm.trans h
      · cases houtput.symm.trans h
    | text pre post =>
      refine ⟨fun h => ?_, fun h => ?_, fun h hpre => ?_, fun h hpre => ?_⟩
      · obtain ⟨message, hpre⟩ := h pre post houtput
        rw [(Output.around_text_of_ok post hpre _ _).1]
        exact hmarks
      · cases houtput.symm.trans h
      · cases houtput.symm.trans h
        exact (Output.around_text_of_ok post hpre _ _).2
      · cases houtput.symm.trans h
        rw [Output.around_text_of_error post hpre]
        exact ⟨rfl, rfl, rfl⟩

/-- A call on a watched device is the call on the device. -/
theorem simulates_call (send : Sender δ) (context : Context)
    (outer : DeviceType (Watched Request δ)) (type : DeviceType δ) :
    Simulates Watched.device
      ((Composed.compose (rawCommandBy send.watched) context).call outer)
      ((Composed.compose (rawCommandBy send) context).call type) := by
  rw [call_rawCommandBy, call_rawCommandBy]
  exact (simulates_sendRawBy send).around _

/-! ## Command lines -/

/-- After two dashes any method may be given, and any literal that there is. -/
theorem parse_rawLiteral (method : String) {literal : String} {v : Json}
    (h : Literal.parse literal = .ok v) :
    rawCommand.toCommand.parse ["--", method, literal]
      = .ok ⟨[("command", .text method), ("parameters", .literal v)], []⟩ := by
  have hread : Reader.literal.read literal = .ok (.literal v) := validated_eq_ok_iff.2 ⟨v, h, rfl⟩
  let last : Frame := ⟨rawCommand.toCommand, [("command", .text method)],
    .gathered rawParams[1].toArg .literal literal, 2, true⟩
  let resolved : Frame := ⟨rawCommand.toCommand,
    [("command", .text method), ("parameters", .literal v)], .nothing, 2, true⟩
  have hrun : State.run ["--", method, literal] (.reading (.start rawCommand.toCommand) [])
      = .ok (.reading last []) := rfl
  have hresolve : last.resolve = .ok resolved := by
    have hgive : last.resolve = (Reader.literal.read literal).map
        fun value => { last with
          pending := .nothing, values := Entries.insert "parameters" value last.values } := rfl
    rw [hgive, hread]
    rfl
  have hclose : last.close false = .ok resolved.values := by
    rw [Frame.close, hresolve]
    rfl
  rw [Command.parse_eq, hrun]
  exact congrArg (Except.map fun values => (⟨values, []⟩ : Matches)) hclose

/-- The parameters of the default are none. -/
theorem parse_rawDefault (method : String) :
    rawCommand.toCommand.parse ["--", method]
      = .ok ⟨[("command", .text method), ("parameters", .literal (.array []))], []⟩ := rfl

end GenericDevice

/-- An option with its value attached is recorded at once. -/
theorem CommandLine.Frame.step_attached {frame : Frame} (htrailing : frame.trailing = false)
    (hpending : frame.pending = .nothing) {text name value long : String} {arg : Arg}
    {reader : Reader} {v : Value} (hfree : frame.command.IsFree text)
    (hlong : IsLong text name (some value))
    (hfind : frame.command.args.find? (·.shape.long? = some name) = some arg)
    (hshape : arg.shape = .option long reader) (hhas : frame.has arg = false)
    (hread : reader.read value = .ok v) :
    frame.step [] text = .ok (.reading (frame.put arg v) []) := by
  have hawaiting : frame.isAwaiting = false := by
    rw [isAwaiting, hpending]
  have hresolve : frame.resolve = .ok frame := by
    rw [resolve, hpending]
  have hbegin : frame.begin arg (some value) = .ok (frame.put arg v) := by
    have hgive : frame.give arg reader value = .ok (frame.put arg v) := by
      rw [give, hhas, if_neg Bool.false_ne_true, hread]
      rfl
    unfold begin
    rw [hshape, hresolve]
    exact hgive
  rw [step, htrailing, if_neg Bool.false_ne_true, hawaiting, if_neg Bool.false_ne_true, hfree.find]
  dsimp only
  rw [hfree.help, if_neg Bool.false_ne_true, word_long hlong, Frame.long, hfind]
  dsimp only
  rw [hbegin]
  rfl

/-- The address and the token of a valid connection are read as they are. -/
theorem Connection.read_of_validate {connection : Connection} (h : connection.validate = .ok ()) :
    Reader.address.read connection.address = .ok (.text connection.address)
      ∧ Reader.token.read connection.token = .ok (.text connection.token) := by
  unfold validate at h
  obtain ⟨address, haddress, h⟩ := bind_eq_ok_iff.1 h
  obtain ⟨token, htoken, -⟩ := bind_eq_ok_iff.1 h
  have hip : Reader.address.read connection.address = .ok (.text address) :=
    validated_eq_ok_iff.2 ⟨address, haddress, rfl⟩
  have htok : Reader.token.read connection.token = .ok (.text token) :=
    validated_eq_ok_iff.2 ⟨token, htoken, rfl⟩
  constructor
  · exact hip.trans (congrArg Except.ok (keeps_address _ _ hip))
  · exact htok.trans (congrArg Except.ok (keeps_token _ _ htok))

namespace Group

/-- **A connection, a command and its words** are accepted, where the connection is valid and the
command accepts the words. -/
theorem parse_connected {g : Group δ}
    (hnames : ∀ sub ∈ g.toCommand.subcommands, sub.name.toList.head? ≠ some '-')
    {connection : Connection} (hvalid : connection.validate = .ok ()) {name : String}
    {sub : Command} {back : List String} {below : Matches}
    (hfind : g.toCommand.find? name = some sub) (hbelow : sub.parse back = .ok below) :
    g.toCommand.parse
        (["--ip=" ++ connection.address, "--token=" ++ connection.token, name] ++ back)
      = .ok ⟨[("ip", .text connection.address), ("token", .text connection.token)],
          (sub.name, below.values) :: below.path⟩ := by
  obtain ⟨haddress, htoken⟩ := Connection.read_of_validate hvalid
  let first := (Frame.start g.toCommand).put connectionArgs[0] (.text connection.address)
  let second := first.put connectionArgs[1] (.text connection.token)
  have hip : IsLong ("--ip=" ++ connection.address) "ip" (some connection.address) :=
    isLong_attached rfl (by decide) _
  have htok : IsLong ("--token=" ++ connection.token) "token" (some connection.token) :=
    isLong_attached rfl (by decide) _
  have hfirst : (Frame.start g.toCommand).step [] ("--ip=" ++ connection.address)
      = .ok (.reading first []) :=
    Frame.step_attached rfl rfl (Command.isFree_of_dash hnames (by simp)) hip rfl rfl rfl haddress
  have hsecond : first.step [] ("--token=" ++ connection.token) = .ok (.reading second []) :=
    Frame.step_attached rfl rfl (Command.isFree_of_dash hnames (by simp)) htok rfl rfl rfl htoken
  have hsub : second.step [] name = .ok (.reading (.start sub) [second]) := by
    have hawaiting : second.isAwaiting = false := rfl
    have hcommand : second.command.find? name = some sub := hfind
    rw [Frame.step, hawaiting, hcommand]
    rfl
  have hclose : second.close true = .ok second.values := rfl
  have hrun : State.run (["--ip=" ++ connection.address, "--token=" ++ connection.token, name]
      ++ back) (.reading (.start g.toCommand) [])
        = State.run back (.reading (.start sub) [second]) := by
    change ((Frame.start g.toCommand).step [] ("--ip=" ++ connection.address)).bind _ = _
    rw [hfirst]
    change (first.step [] ("--token=" ++ connection.token)).bind _ = _
    rw [hsecond]
    change (second.step [] name).bind _ = _
    rw [hsub]
    rfl
  rw [Command.parse_eq, hrun, sub.run_subcommand, hbelow]
  exact congrArg
    (Except.map fun values => (⟨values, (sub.name, below.values) :: below.path⟩ : Matches)) hclose

/-- What was found is the command that sends any request, with a method and the value of a
literal. -/
structure AsksFor (found : Matches) (method : String) (literal : Json) : Prop where
  exists_below : ∃ below, found.subcommand? = some ("raw-command", below)
    ∧ Entries.get? "command" below.values = some (.text method)
    ∧ Entries.get? "parameters" below.values = some (.literal literal)

end Group

/-- Words give the command that sends any request a method, and a literal of this value. -/
structure GenericDevice.RawGives (words : List String) (method : String) (literal : Json) :
    Prop where
  exists_given : ∃ gs, Gives rawCommand.toCommand 0 words gs
  method : ∀ gs, Gives rawCommand.toCommand 0 words gs → rawParams[0].word? gs = some method
  literal : ∀ gs, Gives rawCommand.toCommand 0 words gs →
    ∃ word, rawParams[1].word? gs = some word ∧ Literal.parse word = .ok literal

theorem GenericDevice.exists_rawGives {words : List String} {below : Matches}
    (h : rawCommand.toCommand.parse words = .ok below) :
    ∃ method literal, RawGives words method literal
      ∧ Entries.get? "command" below.values = some (.text method)
      ∧ Entries.get? "parameters" below.values = some (.literal literal) := by
  have hnames : (rawCommand.params.map Param.name).Nodup := by decide
  have hids : (rawCommand.toCommand.args.map Arg.id).Nodup := by decide
  obtain ⟨-, method, literal, hmethod, hliteral⟩ := exists_values_rawCommand h
  obtain ⟨-, hgives, hholds⟩ := Command.exists_holds_alone hids rfl rfl h
  refine ⟨method, literal, ⟨hgives, fun gs hgs => ?_, fun gs hgs => ?_⟩, hmethod, hliteral⟩
  · have hmem : rawParams[0] ∈ rawCommand.params := List.mem_cons_self
    rcases Descriptor.value_cases hnames (hholds gs hgs) hmem with ⟨word, v, hword, hread, hget⟩ |
      ⟨-, hkind, -⟩ | ⟨-, -, -, hget⟩
    · cases hread
      cases hmethod.symm.trans hget
      exact hword
    · cases hkind
    · cases hmethod.symm.trans hget
  · have hmem : rawParams[1] ∈ rawCommand.params := List.mem_cons_of_mem _ List.mem_cons_self
    rcases Descriptor.value_cases hnames (hholds gs hgs) hmem with ⟨word, v, hword, hread, hget⟩ |
      ⟨-, hkind, -⟩ | ⟨-, hdefault, -⟩
    · obtain ⟨value, hparse, rfl⟩ := validated_eq_ok_iff.1 hread
      cases hliteral.symm.trans hget
      exact ⟨word, hword, hparse⟩
    · cases hkind
    · cases hdefault

/-- A group whose devices are sent requests in this way, also by the command for any request. -/
structure Group.SendsBy (g : Group δ) (send : Sender δ) : Prop where
  coherent : g.registry.Coherent
  names : ∀ sub ∈ g.toCommand.subcommands, sub.name.toList.head? ≠ some '-'
  get? : g.registry.get? "raw-command" = some (GenericDevice.rawCommandBy send)

namespace Group

/-- The call of the command that sends any request, on a device that is watched. To fetch the
information on the device would be a request as well. -/
def watchedCall (g : Group δ) (send : Sender δ) (context : Context) (connection : Connection)
    (values : Entries Value) : Call (Watched Request δ) :=
  (Composed.compose (GenericDevice.rawCommandBy send.watched) context).call
    (Watched.type [⟨"info", .null⟩] g.type) (GenericDevice.rawCommand.extractArguments values)
    (.fresh (g.type.connect { connection with debug := context.debug }))

/-- Requests are passed on to the devices of a group as they are given. -/
structure PassesRequests (g : Group δ) (send : Sender δ) (context : Context) : Prop where
  /-- A command line with the command gives a method and a literal. -/
  reads : ∀ {words : List String} {found below : Matches}, g.toCommand.parse words = .ok found →
    found.subcommand? = some ("raw-command", below) →
    ∃ front back method literal, words = front ++ "raw-command" :: back
      ∧ GenericDevice.RawGives back method literal ∧ AsksFor found method literal
  /-- Every method and every literal may be given, on every connection. -/
  accepts : ∀ {connection : Connection}, connection.validate = .ok () → ∀ method : String,
    let front := ["--ip=" ++ connection.address, "--token=" ++ connection.token, "raw-command",
      "--", method]
    (∀ word literal, Literal.parse word = .ok literal →
        ∃ found, g.toCommand.parse (front ++ [word]) = .ok found ∧ AsksFor found method literal)
      ∧ ∃ found, g.toCommand.parse front = .ok found ∧ AsksFor found method (.array [])
  /-- The call of the command passes the request on. -/
  sends : ∀ {words : List String} {found : Matches} {method : String} {literal : Json},
    g.toCommand.parse words = .ok found → AsksFor found method literal →
    ∃ connection values,
      let call := g.watchedCall send context connection values
      g.dispatch context found = call.onDevice (fun w => some w.device)
        ∧ GenericDevice.RawCall context method literal call

theorem SendsBy.find?_rawCommand {g : Group δ} {send : Sender δ} (h : g.SendsBy send) :
    g.toCommand.find? "raw-command" = some GenericDevice.rawCommand.toCommand := by
  have hmem : ("raw-command", GenericDevice.rawCommandBy send) ∈ g.registry.commands :=
    Entries.mem_of_get? h.get?
  have hsome : (g.toCommand.find? "raw-command").isSome = true :=
    List.find?_isSome.2 ⟨_, List.mem_map_of_mem hmem, decide_eq_true rfl⟩
  obtain ⟨sub, hsub⟩ := Option.isSome_iff_exists.1 hsome
  obtain ⟨d, hd, rfl⟩ := exists_get?_of_find? h.coherent hsub
  cases h.get?.symm.trans hd
  exact hsub

theorem SendsBy.passesRequests {g : Group δ} {send : Sender δ} (h : g.SendsBy send)
    (context : Context) : g.PassesRequests send context where
  reads := by
    intro words found below hparse hsub
    obtain ⟨front, back, command, d, below', connection, hwords, hsub', hbelow, hget, -⟩ :=
      g.exists_call_of_parse h.coherent hparse
    cases hsub.symm.trans hsub'
    cases h.get?.symm.trans hget
    obtain ⟨method, literal, hgives, hmethod, hliteral⟩ := GenericDevice.exists_rawGives hbelow
    exact ⟨front, back, method, literal, hwords, hgives, ⟨below, hsub, hmethod, hliteral⟩⟩
  accepts := by
    intro connection hvalid method
    have hasks {v : Json} {back : List String}
        (hback : GenericDevice.rawCommand.toCommand.parse back
          = .ok ⟨[("command", .text method), ("parameters", .literal v)], []⟩) :
        ∃ found, g.toCommand.parse (["--ip=" ++ connection.address,
            "--token=" ++ connection.token, "raw-command"] ++ back) = .ok found
          ∧ AsksFor found method v :=
      ⟨_, parse_connected h.names hvalid h.find?_rawCommand hback, ⟨_, rfl, rfl, rfl⟩⟩
    exact ⟨fun word literal hliteral => hasks (GenericDevice.parse_rawLiteral method hliteral),
      hasks (GenericDevice.parse_rawDefault method)⟩
  sends := by
    intro words found method literal hparse hasks
    obtain ⟨below, hsub, hmethod, hliteral⟩ := hasks.exists_below
    obtain ⟨front, back, command, d, below', connection, -, hsub', -, hget, -, -, hcall⟩ :=
      g.exists_call_of_parse h.coherent hparse
    cases hsub.symm.trans hsub'
    cases h.get?.symm.trans hget
    refine ⟨connection, below.values, ?_, ?_⟩
    · have hsimulates := GenericDevice.simulates_call send context
        (Watched.type [⟨"info", .null⟩] g.type) g.type
        (GenericDevice.rawCommand.extractArguments below.values)
        (.fresh (g.type.connect { connection with debug := context.debug }))
      rw [hcall context]
      exact (congrArg (Call.onDevice some) hsimulates).symm
    · have harguments : GenericDevice.rawCommand.extractArguments below.values
          = GenericDevice.rawArguments method literal := by
        rw [GenericDevice.extractArguments_rawCommand, GenericDevice.extract_command hmethod,
          GenericDevice.extract_parameters hliteral]
        rfl
      rw [watchedCall, harguments]
      exact GenericDevice.rawCall_compose send context method literal _ _

end Group

theorem GenericDevice.sendsBy : group.SendsBy GenericDevice.send where
  coherent := Assembly.ofGenericDevice.coherent_registry
  names := by decide +kernel
  get? := by
    rw [rawCommandBy_send]
    rfl

theorem Plug.sendsBy : group.SendsBy Plug.send where
  coherent := Assembly.ofPlug.coherent_registry
  names := by decide +kernel
  get? := by
    rw [← GenericDevice.lift_rawCommand]
    rfl

/--
**Generic devices and plugs are sent the requests that are asked for**, in every context.

Every method and every literal may be given to the command. One request is sent, with this method
and the value of the literal, or with an empty array where this is null or no literal is given.
Where the command has its own output, the first line tells the method and the value of the literal.
-/
theorem raw_requests (context : Context) :
    GenericDevice.group.PassesRequests GenericDevice.send context
      ∧ Plug.group.PassesRequests Plug.send context :=
  ⟨GenericDevice.sendsBy.passesRequests context, Plug.sendsBy.passesRequests context⟩

/-- A literal that denotes null is announced, and an empty array is sent. -/
theorem not_raw_requests :
    let g := GenericDevice.group
    let words := ["--ip=10.0.0.5", "--token=00112233445566778899aabbccddeeff", "raw-command",
      "get_prop", "None"]
    let found : Matches :=
      ⟨[("ip", .text "10.0.0.5"), ("token", .text "00112233445566778899aabbccddeeff")],
        [("raw-command", [("command", .text "get_prop"), ("parameters", .literal .null)])]⟩
    g.toCommand.parse words = .ok found ∧ Group.AsksFor found "get_prop" .null
      ∧ ∃ connection values,
        let call := g.watchedCall GenericDevice.send ⟨0, none⟩ connection values
        g.dispatch ⟨0, none⟩ found = call.onDevice (fun w => some w.device)
          ∧ call.device.marks = [⟨"get_prop", .array []⟩]
          ∧ call.events.head? = some (.line "Sending cmd get_prop with params null") := by
  intro g words found
  have hparse : g.toCommand.parse words = .ok found := rfl
  have hasks : Group.AsksFor found "get_prop" .null := ⟨_, rfl, rfl, rfl⟩
  obtain ⟨connection, values, hdispatch, hcall⟩ :=
    (GenericDevice.sendsBy.passesRequests ⟨0, none⟩).sends hparse hasks
  obtain ⟨params, hmarks, -, hnull⟩ := hcall.sends fun _ _ h => by cases h
  rw [hnull rfl] at hmarks
  have hannounced := hcall.announces rfl
  have hline : GenericDevice.rawAnnouncement "get_prop" .null
      = "Sending cmd get_prop with params null" := by decide +kernel
  rw [hline] at hannounced
  exact ⟨hparse, hasks, connection, values, hdispatch, hmarks, hannounced⟩

end Switchboard
