import Switchboard.App
import Switchboard.Proofs.Dispatch
import Switchboard.Proofs.Parameters
import Switchboard.Proofs.Strategies
import Switchboard.Proofs.Device.Requests

/-!
# Output for machines

With JSON as the output of a run, what is printed is to be read by a program: one value and a line
feed, whatever was asked and whatever the device answered, and the run succeeds. Two things could
break this, a line that something else emits and an error that the strategy cannot show. No method
and no guard emits anything. And the errors that are left when a command line was accepted are the
refusals of the device, each with a payload to show (`ShowsAll`): the arguments that a command needs
were read, the strategy goes before those of the commands, and with it their messages are gone.
-/

namespace Switchboard

open CommandLine

variable {δ : Type}

/-! ## What JSON output shows -/

/-- What JSON output shows of the end of a call, if it can be shown. -/
def Output.shown? : Result → Option Json
  | .ok outcome => some (outcome.structured?.getD outcome.toJson)
  | .error error => error.payload?

/-- A call that emits nothing and ends with something to show. -/
structure Call.Shows (call : Call δ) (v : Json) : Prop where
  events : call.events = []
  shown : Output.shown? call.result = some v

/-- What can be shown is shown on one line, and the call succeeds. -/
theorem Output.json_around {rest : Rest δ} {arguments : Arguments} {device : δ} {v : Json}
    (h : (rest arguments device).Shows v) (pretty : Bool) :
    ((json pretty).layer.around rest arguments device).events = [.line (encode pretty v)]
      ∧ ∃ outcome, ((json pretty).layer.around rest arguments device).result = .ok outcome := by
  have hshown := shown_around pretty rest arguments device
  generalize (json pretty).layer.around rest arguments device = call at hshown
  obtain ⟨hevents, hv⟩ := h
  cases hshown with
  | @outcome outcome hinner =>
    rw [hinner, shown?, outcome.structured_eq] at hv
    cases hv
    rw [hevents]
    exact ⟨rfl, outcome, rfl⟩
  | payload hinner =>
    rw [hinner] at hv
    cases hv
    rw [hevents]
    exact ⟨rfl, _, rfl⟩
  | error hinner hresponse =>
    rw [hinner] at hv
    obtain ⟨message, hmessage⟩ := DispatchError.payload?_eq_some_iff.1 hv
    exact absurd ⟨message, v, hmessage⟩ hresponse

/-- An answer that is no error, or a refusal, can be shown. -/
theorem Call.exists_shows_ofAnswer {α : Type} {answered : Answered δ α}
    (h : ∀ error, answered.2 = .error error → Simulator.IsRefusal error) (arguments : Arguments)
    (outcome : α → Outcome) : ∃ v, (Call.ofAnswer arguments outcome answered).Shows v := by
  obtain ⟨device, answer⟩ := answered
  cases answer with
  | ok a => exact ⟨_, rfl, rfl⟩
  | error error =>
    obtain ⟨payload, hpayload, -⟩ := Simulator.isPayload_of_isRefusal (h error rfl)
    exact ⟨payload, rfl, hpayload⟩

/-! ## Groups that show everything -/

/-- Every command of a group ends with something to show, if its command line was accepted. -/
structure Group.ShowsAll (g : Group δ) : Prop where
  coherent : g.registry.Coherent
  transparent : ∀ command d, g.registry.get? command = some d →
    ∀ layer ∈ d.decorators, ∃ name, layer = .transparent name
  shows : ∀ command d, g.registry.get? command = some d → ∀ words below,
    d.toCommand.parse words = .ok below → ∀ context device,
      ∃ v, ((Composed.compose d context).core g.type (d.extractArguments below.values)
        device).Shows v

/-- Under JSON output such a group prints the value that the command ends with, and succeeds. -/
theorem Group.ShowsAll.dispatch {g : Group δ} (h : g.ShowsAll) {words : List String}
    {found : Matches} (hparse : g.toCommand.parse words = .ok found) {context : Context}
    {pretty : Bool} (hcontext : context.output = some (.json pretty)) :
    ∃ (command : String) (below : Matches) (d : Descriptor δ) (connection : Connection) (v : Json),
      found.subcommand? = some (command, below) ∧ g.registry.get? command = some d
        ∧ ((Composed.compose d context).core g.type (d.extractArguments below.values)
            (g.type.connect connection)).Shows v
        ∧ (g.dispatch context found).events = [.line (Output.encode pretty v)]
        ∧ ∃ outcome, (g.dispatch context found).result = .ok outcome := by
  obtain ⟨front, back, command, d, below, connection, -, hsub, hbelow, hget, -, -, hcall⟩ :=
    g.exists_call_of_parse h.coherent hparse
  obtain ⟨v, hshows⟩ := h.shows command d hget back below hbelow context
    (g.type.connect { connection with debug := context.debug })
  -- the strategy of the context stands in for the command's own, and its messages go with it
  have houtput : Composed.output d context = .json pretty := by
    unfold Composed.output
    rw [hcontext]
    rfl
  refine ⟨command, below, d, _, v, hsub, hget, hshows, ?_⟩
  rw [hcall context, Composed.call_of_transparent (h.transparent command d hget), houtput]
  exact Output.json_around hshows pretty

/-! ## The command that sends any request -/

/-- A value is what is shown of an answer: the answer itself, or what a refusal carries. -/
def Simulator.AnswersWith (v : Json) : Except DeviceError Json → Prop
  | .ok answer => v = answer
  | .error error => error.payload? = some v

theorem Call.answersWith_of_shows {answered : Answered δ Json} {arguments : Arguments} {v : Json}
    (h : (Call.ofAnswer arguments .value answered).Shows v) :
    Simulator.AnswersWith v answered.2 := by
  have hshown := h.shown
  obtain ⟨device, answer⟩ := answered
  cases answer with
  | ok a =>
    cases hshown
    rfl
  | error error => exact hshown

namespace GenericDevice

/-- The parameters that a literal stands for; null counts as not given. -/
def rawParamsOf (literal : Json) : Json := if literal.isNull then .array [] else literal

theorem extractArguments_rawCommand (values : Entries Value) :
    rawCommand.extractArguments values
      = [("command", rawParams[0].extract values),
        ("parameters", rawParams[1].extract values)] := by
  have hsorted : Entries.Sorted
      [("command", rawParams[0].extract values), ("parameters", rawParams[1].extract values)] :=
    List.pairwise_map.1 (show ["command", "parameters"].Pairwise (· < ·) by decide)
  exact Entries.ofList_eq_of_perm (.refl _) hsorted

theorem extract_command {values : Entries Value} {method : String}
    (h : Entries.get? "command" values = some (.text method)) :
    rawParams[0].extract values = .string method := by
  have hvalue : Entries.get? rawParams[0].name values = some (.text method) := h
  rw [Param.extract, hvalue]
  rfl

theorem extract_parameters {values : Entries Value} {literal : Json}
    (h : Entries.get? "parameters" values = some (.literal literal)) :
    rawParams[1].extract values = literal := by
  have hvalue : Entries.get? rawParams[1].name values = some (.literal literal) := h
  rw [Param.extract, hvalue]
  rfl

/-- The method of a request is the text that was found for it. -/
theorem requireText_rawCommand {values : Entries Value} {method : String}
    (h : Entries.get? "command" values = some (.text method)) :
    Arguments.requireText "command" (rawCommand.extractArguments values) = .ok method := by
  rw [extractArguments_rawCommand, extract_command h]
  rfl

theorem given?_rawCommand {values : Entries Value} {literal : Json}
    (h : Entries.get? "parameters" values = some (.literal literal)) :
    (Arguments.given? "parameters" (rawCommand.extractArguments values)).getD (.array [])
      = rawParamsOf literal := by
  have hgiven : Arguments.given? "parameters" (rawCommand.extractArguments values)
      = (some literal).filter (!·.isNull) := by
    rw [extractArguments_rawCommand, extract_parameters h]
    rfl
  rw [hgiven, rawParamsOf]
  cases hnull : literal.isNull with
  | true =>
    rw [Option.filter_some_neg (by simp [hnull])]
    rfl
  | false =>
    rw [Option.filter_some_pos (by simp [hnull])]
    rfl

/-- Where the command was accepted there is a method, and there are parameters, at least those that
stand by default. -/
theorem exists_values_rawCommand {words : List String} {below : Matches}
    (h : rawCommand.toCommand.parse words = .ok below) :
    below.path = [] ∧ ∃ method literal,
      Entries.get? "command" below.values = some (.text method)
        ∧ Entries.get? "parameters" below.values = some (.literal literal) := by
  have hnames : (rawCommand.params.map Param.name).Nodup := by decide
  have hids : (rawCommand.toCommand.args.map Arg.id).Nodup := by decide
  obtain ⟨hpath, ⟨gs, hgs⟩, hholds⟩ := Command.exists_holds_alone hids rfl rfl h
  have hcommand : ∃ method, Entries.get? "command" below.values = some (.text method) := by
    have hmem : rawParams[0].toArg ∈ rawCommand.toCommand.args := List.mem_cons_self
    rcases (hholds gs hgs).value_cases hids hmem with
      ⟨reader, word, value, -, hshape, hread, hget⟩ | ⟨long, -, hshape, -⟩ |
      ⟨long, letter, hshape⟩ | ⟨-, hoptional, -⟩
    · have hreader : reader = .text := Param.reader_of_shape (p := rawParams[0]) hshape
      subst hreader
      cases hread
      exact ⟨word, hget⟩
    · cases hshape
    · cases hshape
    · cases hoptional
  have hparameters : ∃ literal,
      Entries.get? "parameters" below.values = some (.literal literal) := by
    have hmem : rawParams[1] ∈ rawCommand.params := List.mem_cons_of_mem _ List.mem_cons_self
    rcases Descriptor.value_cases hnames (hholds gs hgs) hmem with ⟨word, v, -, hread, hget⟩ |
      ⟨-, hkind, -⟩ | ⟨-, hdefault, -⟩
    · obtain ⟨literal, -, rfl⟩ := validated_eq_ok_iff.1 hread
      exact ⟨literal, hget⟩
    · cases hkind
    · cases hdefault
  obtain ⟨method, hmethod⟩ := hcommand
  obtain ⟨literal, hliteral⟩ := hparameters
  exact ⟨hpath, method, literal, hmethod, hliteral⟩

theorem exists_requireText {words : List String} {below : Matches}
    (h : rawCommand.toCommand.parse words = .ok below) :
    ∃ method, Arguments.requireText "command" (rawCommand.extractArguments below.values)
      = .ok method := by
  obtain ⟨-, method, -, hmethod, -⟩ := exists_values_rawCommand h
  exact ⟨method, requireText_rawCommand hmethod⟩

end GenericDevice

/-! ## The groups of the program -/

/-- The group of generic devices. -/
def GenericDevice.group : Group GenericDevice := ⟨type, registry⟩

/-- The group of plugs. -/
def Plug.group : Group Plug := ⟨type, registry⟩

namespace GenericDevice

theorem showsAll : group.ShowsAll where
  coherent := Assembly.ofGenericDevice.coherent_registry
  transparent := by
    intro command d hget
    rcases Assembly.cases_ofGenericDevice hget with rfl | rfl
    · exact List.forall_mem_nil _
    · exact List.forall_mem_singleton.2 ⟨"timing", rfl⟩
  shows := by
    intro command d hget words below hbelow context device
    rcases Assembly.cases_ofGenericDevice hget with rfl | rfl
    · have hcore : (Composed.compose infoCommand context).core type
          (infoCommand.extractArguments below.values) device
            = .ofAnswer (infoCommand.extractArguments below.values) DeviceInfo.toOutcome
              device.queryInfo := rfl
      rw [group, hcore, queryInfo_eq]
      exact Call.exists_shows_ofAnswer (fun error herror => by cases herror) _ _
    · obtain ⟨method, hmethod⟩ := exists_requireText hbelow
      have hcore : (Composed.compose rawCommand context).core type
          (rawCommand.extractArguments below.values) device
            = sendRaw (rawCommand.extractArguments below.values) device := rfl
      rw [group, hcore, sendRaw_eq hmethod]
      exact Call.exists_shows_ofAnswer (fun error => isRefusal_of_send) _ _

/-- What is shown of a request is its answer. -/
theorem answersWith_rawCommand {context : Context} {values : Entries Value} {method : String}
    (hmethod : Entries.get? "command" values = some (.text method)) {literal : Json}
    (hliteral : Entries.get? "parameters" values = some (.literal literal)) {d : GenericDevice}
    {v : Json}
    (h : ((Composed.compose rawCommand context).core type (rawCommand.extractArguments values)
      d).Shows v) :
    Simulator.AnswersWith v (d.transport.send method (rawParamsOf literal)).2 := by
  have hcore : (Composed.compose rawCommand context).core type
      (rawCommand.extractArguments values) d
        = sendRaw (rawCommand.extractArguments values) d := rfl
  rw [hcore, sendRaw_eq (requireText_rawCommand hmethod), given?_rawCommand hliteral] at h
  have hanswer := Call.answersWith_of_shows h
  exact hanswer

end GenericDevice

namespace Plug

/-- A plug answers every question, or refuses it with a payload. -/
theorem exists_shows_method {d : Descriptor Plug} (hown : d ∈ Assembly.plugCommands)
    (arguments : Arguments) (p : Plug) : ∃ v, (d.method arguments p).Shows v := by
  rcases Assembly.cases_plugCommands hown with rfl | rfl | ⟨on, rfl⟩ | rfl | rfl
  · obtain ⟨rows, hrows⟩ := p.exists_infoRows
    rw [infoCommand, Descriptor.build_method, hrows]
    exact Call.exists_shows_ofAnswer (fun error herror => by cases herror) _ _
  · obtain ⟨status, hstatus⟩ := p.exists_status
    rw [statusCommand, Descriptor.build_method, hstatus]
    exact Call.exists_shows_ofAnswer (fun error herror => by cases herror) _ _
  · rw [powerCommand, Descriptor.build_method]
    exact Call.exists_shows_ofAnswer (fun error => isRefusal_of_send) _ _
  · rw [ledCommand, Descriptor.build_method]
    exact Call.exists_shows_ofAnswer (fun error => isRefusal_of_led) _ _
  · rw [propertiesCommand, Descriptor.build_method, propertyValues_eq]
    exact Call.exists_shows_ofAnswer (fun error herror => by cases herror) _ _

theorem showsAll : group.ShowsAll where
  coherent := Assembly.ofPlug.coherent_registry
  transparent := fun command d => transparent_of_get?
  shows := by
    intro command d hget words below hbelow context device
    obtain ⟨p, -, hcore⟩ := core_eq d context (d.extractArguments below.values) device
    rw [group, hcore]
    rcases Assembly.cases_ofPlug hget with hown | rfl
    · exact exists_shows_method hown _ p
    · obtain ⟨method, hmethod⟩ := GenericDevice.exists_requireText hbelow
      show ∃ v, (embedding.lift GenericDevice.sendRaw
        (GenericDevice.rawCommand.extractArguments below.values) p).Shows v
      rw [lift_sendRaw hmethod]
      exact Call.exists_shows_ofAnswer (fun error => isRefusal_of_send) _ _

/-- What is shown of a request is its answer. -/
theorem answersWith_rawCommand {context : Context} {values : Entries Value} {method : String}
    (hmethod : Entries.get? "command" values = some (.text method)) {literal : Json}
    (hliteral : Entries.get? "parameters" values = some (.literal literal)) {p : Plug} {v : Json}
    (h : ((Composed.compose (GenericDevice.rawCommand.lift embedding) context).core type
      (GenericDevice.rawCommand.extractArguments values) p).Shows v) :
    Simulator.AnswersWith v
      (p.base.transport.send method (GenericDevice.rawParamsOf literal)).2 := by
  have hcore : (Composed.compose (GenericDevice.rawCommand.lift embedding) context).core type
      (GenericDevice.rawCommand.extractArguments values) p
        = embedding.lift GenericDevice.sendRaw
          (GenericDevice.rawCommand.extractArguments values) p := rfl
  rw [hcore, lift_sendRaw (GenericDevice.requireText_rawCommand hmethod),
    GenericDevice.given?_rawCommand hliteral] at h
  have hanswer := Call.answersWith_of_shows h
  exact hanswer

end Plug

/-! ## The program -/

namespace App

/-- What the program has is these two groups. -/
theorem standard_eq : Catalog.standard = .ok ⟨[GenericDevice.group.toAny, Plug.group.toAny]⟩ := rfl

/-- The groups of the program are already in the order of their names. -/
theorem commands_standard {catalog : Catalog} (hcatalog : Catalog.standard = .ok catalog) :
    catalog.commands = [GenericDevice.group.toCommand, Plug.group.toCommand] := by
  rw [standard_eq] at hcatalog
  cases hcatalog
  have hnames : (Catalog.mk [GenericDevice.group.toAny, Plug.group.toAny]).names
      = ["device", "plug"] := List.mergeSort_of_pairwise (by decide)
  rw [Catalog.commands, hnames]
  rfl

/-- A run that emits one line and succeeds prints that line. -/
theorem run_of_dispatch {catalog : Catalog} {found below : Matches} {name : String}
    {group : AnyGroup} (hsub : found.subcommand? = some (name, below))
    (hget : catalog.get? name = some group) {settings : Settings} {text : String}
    (hevents : (group.dispatch settings.context below).events = [.line text])
    {outcome : Outcome} (hresult : (group.dispatch settings.context below).result = .ok outcome) :
    run catalog found settings = ⟨text ++ "\n", none⟩ := by
  unfold run
  rw [hsub]
  dsimp only
  rw [hget]
  dsimp only
  rw [hresult, hevents]
  have hprinted : Event.printed [.line text] = text ++ "\n" ++ "" := rfl
  rw [hprinted, String.append_empty]

/-- A subcommand of the program is one of its groups. -/
theorem cases_of_mem {catalog : Catalog} (hcatalog : Catalog.standard = .ok catalog)
    {sub : Command} (h : sub ∈ (command catalog).subcommands) :
    sub = GenericDevice.group.toCommand ∨ sub = Plug.group.toCommand := by
  have hsubcommands : (command catalog).subcommands
      = [GenericDevice.group.toCommand, Plug.group.toCommand] := commands_standard hcatalog
  rw [hsubcommands] at h
  rcases List.mem_cons.1 h with hdevice | hplug
  · exact Or.inl hdevice
  · exact Or.inr (List.mem_singleton.1 hplug)

/-- What was found belongs to a group of the catalog, which has read the rest of the words. -/
structure BelongsTo (catalog : Catalog) (g : Group δ) (found below : Matches) : Prop where
  path : found.path = (g.name, below.values) :: below.path
  get : catalog.get? g.name = some g.toAny
  parse : ∃ words, g.toCommand.parse words = .ok below

theorem BelongsTo.subcommand? {catalog : Catalog} {g : Group δ} {found below : Matches}
    (h : BelongsTo catalog g found below) : found.subcommand? = some (g.name, below) := by
  rw [Matches.subcommand?, h.path]

/-- An accepted command line belongs to one of the two groups. -/
theorem exists_belongsTo {catalog : Catalog} (hcatalog : Catalog.standard = .ok catalog)
    {words : List String} {found : Matches} (hparse : (command catalog).parse words = .ok found) :
    ∃ below, BelongsTo catalog GenericDevice.group found below
      ∨ BelongsTo catalog Plug.group found below := by
  have hids : ((command catalog).args.map Arg.id).Nodup :=
    show ["debug", "output"].Nodup by decide
  obtain ⟨front, back, sub, below, -, hfind, hbelow, hpath, -, -⟩ :=
    Command.exists_holds_below hids rfl rfl hparse
  have hgroup := cases_of_mem hcatalog (List.mem_of_find?_eq_some hfind)
  rw [standard_eq] at hcatalog
  cases hcatalog
  rcases hgroup with rfl | rfl
  · exact ⟨below, Or.inl ⟨hpath, rfl, back, hbelow⟩⟩
  · exact ⟨below, Or.inr ⟨hpath, rfl, back, hbelow⟩⟩

/-- A run that does not fail ends the program with success. -/
theorem process_of_run {catalog : Catalog} (hcatalog : Catalog.standard = .ok catalog)
    {words : List String} {found : Matches} (hparse : (command catalog).parse words = .ok found)
    {world : World} {config : Config} (hconfig : loadConfig world = .ok config) {printed : String}
    (hrun : run catalog found (.resolve config found) = ⟨printed, none⟩) :
    process world words = ⟨printed, .success⟩ := by
  unfold process processWith finish
  rw [hcatalog]
  dsimp only
  rw [hparse]
  dsimp only
  rw [hconfig]
  dsimp only
  rw [hrun]

/-- The command that is found is the one on the path. -/
theorem eq_of_path {found below under : Matches} {group group' name name' : String}
    {values values' below' : Entries Value} (hpath : found.path = (group, values) :: below.path)
    (hfound : found.path = [(group', values'), (name', below')])
    (hunder : below.subcommand? = some (name, under)) :
    group' = group ∧ name' = name ∧ below' = under.values := by
  rw [hfound] at hpath
  obtain ⟨hgroup, hbelow⟩ := List.cons.inj hpath
  unfold Matches.subcommand? at hunder
  rw [← hbelow] at hunder
  cases hunder
  exact ⟨congrArg Prod.fst hgroup, rfl, rfl⟩

/-- Under JSON output a run prints one value, which is the answer where any request was sent. -/
theorem run_json {catalog : Catalog} (hcatalog : Catalog.standard = .ok catalog)
    {words : List String} {found : Matches} (hparse : (command catalog).parse words = .ok found)
    {settings : Settings} {pretty : Bool}
    (houtput : settings.outputOverride = some (.json pretty)) :
    ∃ v, run catalog found settings = ⟨Output.encode pretty v ++ "\n", none⟩
      ∧ ∀ group values below method literal,
        found.path = [(group, values), ("raw-command", below)] →
        Entries.get? "command" below = some (.text method) →
        Entries.get? "parameters" below = some (.literal literal) →
        let params := GenericDevice.rawParamsOf literal
        (group = GenericDevice.group.name → ∀ connection, Simulator.AnswersWith v
            ((GenericDevice.connect connection).transport.send method params).2)
          ∧ (group = Plug.group.name → ∀ connection, Simulator.AnswersWith v
            ((Plug.connect connection).base.transport.send method params).2) := by
  have hcontext : settings.context.output = some (.json pretty) := houtput
  -- what is printed follows from the one line of the call, in either group
  obtain ⟨below, hgroup | hgroup⟩ := exists_belongsTo hcatalog hparse
  · obtain ⟨words', hbelow⟩ := hgroup.parse
    obtain ⟨name, under, d, connection, v, hunder, hd, hshows, hevents, outcome, hresult⟩ :=
      GenericDevice.showsAll.dispatch hbelow hcontext
    refine ⟨v, run_of_dispatch hgroup.subcommand? hgroup.get hevents hresult, ?_⟩
    intro group values below' method literal hfound hmethod hliteral
    obtain ⟨hname, rfl, rfl⟩ := eq_of_path hgroup.path hfound hunder
    cases hd
    have hanswer := GenericDevice.answersWith_rawCommand hmethod hliteral hshows
    refine ⟨fun _ connection' => hanswer, fun hplug => ?_⟩
    rw [hname] at hplug
    exact absurd hplug (by decide)
  · obtain ⟨words', hbelow⟩ := hgroup.parse
    obtain ⟨name, under, d, connection, v, hunder, hd, hshows, hevents, outcome, hresult⟩ :=
      Plug.showsAll.dispatch hbelow hcontext
    refine ⟨v, run_of_dispatch hgroup.subcommand? hgroup.get hevents hresult, ?_⟩
    intro group values below' method literal hfound hmethod hliteral
    obtain ⟨hname, rfl, rfl⟩ := eq_of_path hgroup.path hfound hunder
    cases hd
    have hanswer := Plug.answersWith_rawCommand hmethod hliteral hshows
    refine ⟨fun hdevice => ?_, fun _ connection' => hanswer⟩
    rw [hname] at hdevice
    exact absurd hdevice (by decide)

/--
**With JSON as its output, the program prints one value.**

Let the command line be accepted and the configuration be loaded, and let JSON be what the settings
ask for. The run succeeds with exit code 0, and what it prints is one value in JSON and a line feed.
For the command that sends any request, the value is the answer of the device, or, where the device
refuses the request, what it sends along.
-/
theorem process_json {catalog : Catalog} (hcatalog : Catalog.standard = .ok catalog)
    {words : List String} {found : Matches} (hparse : (command catalog).parse words = .ok found)
    {world : World} {config : Config} (hconfig : loadConfig world = .ok config) {pretty : Bool}
    (houtput : (Settings.resolve config found).outputOverride = some (.json pretty)) :
    ∃ v, (process world words).printed = Output.encode pretty v ++ "\n"
      ∧ (process world words).ending = .success ∧ (process world words).ending.code = 0
      ∧ ∀ group values below method literal,
        found.path = [(group, values), ("raw-command", below)] →
        Entries.get? "command" below = some (.text method) →
        Entries.get? "parameters" below = some (.literal literal) →
        let params := GenericDevice.rawParamsOf literal
        (group = GenericDevice.group.name → ∀ connection, Simulator.AnswersWith v
            ((GenericDevice.connect connection).transport.send method params).2)
          ∧ (group = Plug.group.name → ∀ connection, Simulator.AnswersWith v
            ((Plug.connect connection).base.transport.send method params).2) := by
  obtain ⟨v, hrun, hraw⟩ := run_json hcatalog hparse houtput
  rw [process_of_run hcatalog hparse hconfig hrun]
  exact ⟨v, rfl, rfl, rfl, hraw⟩

/-- A request that the plug refuses: nothing is to be written to the light. -/
theorem process_json_refused :
    let catalog : Catalog := ⟨[GenericDevice.group.toAny, Plug.group.toAny]⟩
    let words := ["--output", "json", "plug", "--ip", "10.0.0.5",
      "--token=00112233445566778899aabbccddeeff", "raw-command", "set_led"]
    let found : Matches :=
      ⟨[("debug", .count 0), ("output", .text "json")],
        [("plug", [("ip", .text "10.0.0.5"), ("token", .text "00112233445566778899aabbccddeeff")]),
          ("raw-command", [("command", .text "set_led"), ("parameters", .literal (.array []))])]⟩
    let world : World := ⟨[], Files.emptyAt []⟩
    Catalog.standard = .ok catalog ∧ (command catalog).parse words = .ok found
      ∧ loadConfig world = .ok Config.initial
      ∧ (process world words).printed
        = "\x7b\"code\": -32602, \"message\": \"Invalid params\"\x7d\n"
      ∧ (process world words).ending.code = 0 := by
  intro catalog words found world
  have hcatalog : Catalog.standard = .ok catalog := standard_eq
  have hparse : (command catalog).parse words = .ok found := by
    rw [command, commands_standard hcatalog]
    rfl
  have hconfig : loadConfig world = .ok Config.initial := rfl
  have houtput : (Settings.resolve Config.initial found).outputOverride = some (.json false) := rfl
  obtain ⟨v, hprinted, -, hcode, hraw⟩ := process_json hcatalog hparse hconfig houtput
  obtain ⟨-, hplug⟩ := hraw _ _ _ _ _ rfl rfl rfl
  have hpayload : some (Simulator.payload Simulator.invalidParams "Invalid params") = some v :=
    hplug rfl ⟨"", "", none, 0⟩
  cases hpayload
  exact ⟨hcatalog, hparse, hconfig, hprinted, hcode⟩

end App

end Switchboard
