import Switchboard.Proofs.Device.PlugRecord
import Switchboard.Proofs.MachineReadable

/-!
# Exit codes

A run of the program ends with code 0, 1 or 2, and which of them it is can be told from the command
line, the configuration and one answer of one simulated device. Code 2 belongs to the command line
alone. Once that is accepted, the configuration may fail to load; and once that is loaded, only one
command can fail, the one that sends any request, and only where its request is refused and is not
shown as JSON (`App.process_code`).

For this every other command must finish. The commands' own messages can always be made, on the
arguments that the command line gives them (`Output.Tells`), so a command ends as its method does;
and what a method asks of a device that has just been connected is always answered (`EndsWith`).
-/

namespace Switchboard

open CommandLine

variable {δ : Type}

/-! ## Messages that can be made -/

namespace Output

/-- Text output whose messages can be made for some arguments, whatever comes of the call. -/
def Tells (arguments : Arguments) (output : Output) : Prop :=
  ∃ pre post message, output = .text pre post ∧ post.Concludes
    ∧ pre.render ⟨arguments, none⟩ = .ok message

theorem tells_of_opens {pre post : Message} (hopens : (text pre post).Opens)
    (hpost : post.Concludes) (arguments : Arguments) : (text pre post).Tells arguments := by
  obtain ⟨message, hmessage⟩ := hopens pre post rfl arguments
  exact ⟨pre, post, message, rfl, hpost, hmessage⟩

/-- A call with such messages ends as the rest of it does. -/
theorem Tells.result {output : Output} {arguments : Arguments} (h : output.Tells arguments)
    (rest : Rest δ) (device : δ) :
    (output.layer.around rest arguments device).result = (rest arguments device).result := by
  obtain ⟨pre, post, message, rfl, hpost, hmessage⟩ := h
  exact (textCourse_run_of_concludes hpost hmessage rest device).2

end Output

theorem GenericDevice.tells_rawCommand (values : Entries Value) :
    (rawCommand.defaultOutput.getD (.announce rawCommand.name)).Tells
      (rawCommand.extractArguments values) := by
  have hscan : Template.scan "Sending cmd \x7bcommand\x7d with params \x7bparameters\x7d".toList
      = ("Sending cmd ".toList.map .char ++ .place "command".toList ::
          (" with params ".toList.map .char ++ [.place "parameters".toList]), none) := rfl
  have hmade : ∃ message, Template.render
      "Sending cmd \x7bcommand\x7d with params \x7bparameters\x7d"
      (⟨rawCommand.extractArguments values, none⟩ : MessageSource).field? = .ok message := by
    refine Template.exists_render hscan fun inside hmem => ?_
    have hinside : inside = "command".toList ∨ inside = "parameters".toList := by simpa using hmem
    -- either argument is there, whatever was found for it
    rw [extractArguments_rawCommand]
    rcases hinside with rfl | rfl
    · rfl
    · rfl
  obtain ⟨message, hmessage⟩ := hmade
  exact ⟨_, _, message, rfl, Message.concludes_result, hmessage⟩

/-! ## How commands end -/

/-- What comes back of the command that sends any request. -/
def Simulator.resultOf : Except DeviceError Json → Result
  | .ok answer => .ok (.value answer)
  | .error error => .error (.device error)

theorem Call.ofAnswer_value_result (arguments : Arguments) (answered : Answered δ Json) :
    (Call.ofAnswer arguments .value answered).result = Simulator.resultOf answered.2 := by
  obtain ⟨device, _ | _⟩ := answered
  · rfl
  · rfl

/-- How a command that was found ends on a device that has just been connected, the other end of
which is a simulator: with an outcome, unless it sends any request. -/
inductive EndsWith (s : Simulator) (command : String) (below : Matches) : Result → Prop where
  | outcome (outcome : Outcome) : command ≠ "raw-command" → EndsWith s command below (.ok outcome)
  | answer (method : String) (literal : Json) : command = "raw-command" → below.path = [] →
    Entries.get? "command" below.values = some (.text method) →
    Entries.get? "parameters" below.values = some (.literal literal) →
    EndsWith s command below
      (Simulator.resultOf (s.send method (GenericDevice.rawParamsOf literal)).2)

/-- Every command of a group tells what it does, and ends with an outcome or an answer. -/
structure Group.Yields (g : Group δ) (s : Simulator) : Prop extends g.ShowsAll where
  tells : ∀ command d, g.registry.get? command = some d → ∀ values,
    (d.defaultOutput.getD (.announce d.name)).Tells (d.extractArguments values)
  ends : ∀ command d, g.registry.get? command = some d → ∀ words below,
    d.toCommand.parse words = .ok below → ∀ context connection,
      EndsWith s command below ((Composed.compose d context).core g.type
        (d.extractArguments below.values) (g.type.connect connection)).result

/-- Where nothing stands in for the commands' own messages, what is found on the command line ends
as its method does. -/
theorem Group.Yields.dispatch {g : Group δ} {s : Simulator} (h : g.Yields s) {words : List String}
    {found : Matches} (hparse : g.toCommand.parse words = .ok found) {context : Context}
    (hcontext : context.output = none) :
    ∃ command below, found.subcommand? = some (command, below)
      ∧ EndsWith s command below (g.dispatch context found).result := by
  obtain ⟨front, back, command, d, below, connection, -, hsub, hbelow, hget, -, -, hcall⟩ :=
    g.exists_call_of_parse h.coherent hparse
  have houtput : Composed.output d context = d.defaultOutput.getD (.announce d.name) := by
    unfold Composed.output
    rw [hcontext]
    rfl
  have htells := h.tells command d hget below.values
  rw [← houtput] at htells
  refine ⟨command, below, hsub, ?_⟩
  rw [hcall context, Composed.call_of_transparent (h.transparent command d hget),
    Call.onDevice_result, htells.result]
  exact h.ends command d hget back below hbelow context _

/-! ## The groups of the program -/

namespace GenericDevice

/-- A generic device ends every command but one with an outcome. -/
theorem yields (fresh : Connection) : group.Yields (connect fresh).transport where
  toShowsAll := showsAll
  tells := by
    intro command d hget values
    rcases Assembly.cases_ofGenericDevice hget with rfl | rfl
    · exact Output.tells_of_opens (Output.opens_text Message.opens_empty _)
        Message.concludes_result _
    · exact tells_rawCommand values
  ends := by
    intro command d hget words below hbelow context connection
    have hname := showsAll.coherent.name_of_get? hget
    rcases Assembly.cases_ofGenericDevice hget with rfl | rfl
    · subst hname
      exact .outcome _ (by decide)
    · obtain ⟨hpath, method, literal, hmethod, hliteral⟩ := exists_values_rawCommand hbelow
      have hcore : (Composed.compose rawCommand context).core group.type
          (rawCommand.extractArguments below.values) (group.type.connect connection)
            = sendRaw (rawCommand.extractArguments below.values) (connect connection) := rfl
      have hanswer := EndsWith.answer (s := (connect fresh).transport) method literal hname.symm
        hpath hmethod hliteral
      rw [hcore, sendRaw_eq (requireText_rawCommand hmethod), given?_rawCommand hliteral,
        Call.ofAnswer_value_result]
      exact hanswer

end GenericDevice

namespace Plug

variable {p : Plug}

/-- A plug as it comes from the factory gives every method but one what it asks for. -/
theorem exists_ok_method {d : Descriptor Plug} (hown : d ∈ Assembly.plugCommands)
    (hfresh : p.properties = PlugRecord.initial.entries) (arguments : Arguments) :
    ∃ outcome, (d.method arguments p).result = .ok outcome := by
  rcases Assembly.cases_plugCommands hown with rfl | rfl | ⟨on, rfl⟩ | rfl | rfl
  · obtain ⟨rows, hrows⟩ := p.exists_infoRows
    rw [infoCommand, Descriptor.build_method, hrows]
    exact ⟨_, rfl⟩
  · rw [statusCommand, Descriptor.build_method, status_of_record hfresh]
    exact ⟨_, rfl⟩
  · obtain ⟨p', hpower, -⟩ := setPower_of_record hfresh on
    rw [powerCommand, Descriptor.build_method, hpower]
    exact ⟨_, rfl⟩
  · rw [ledCommand, Descriptor.build_method]
    cases wantedState (Arguments.given? "state" arguments) with
    | some state =>
      obtain ⟨p', hled, -⟩ := led_of_record hfresh state
      rw [hled]
      exact ⟨_, rfl⟩
    | none =>
      rw [led_none_of_record hfresh]
      exact ⟨_, rfl⟩
  · rw [propertiesCommand, Descriptor.build_method, propertyValues_of_record hfresh]
    exact ⟨_, rfl⟩

theorem name_ne_of_own {d : Descriptor Plug} (hown : d ∈ Assembly.plugCommands) :
    d.name ≠ "raw-command" := by
  rcases Assembly.cases_plugCommands hown with rfl | rfl | ⟨on, rfl⟩ | rfl | rfl
  · decide
  · decide
  · cases on <;> decide
  · decide
  · decide

theorem text_of_own {d : Descriptor Plug} (hown : d ∈ Assembly.plugCommands) :
    ∃ pre post, d.defaultOutput.getD (.announce d.name) = .text pre post := by
  rcases Assembly.cases_plugCommands hown with rfl | rfl | ⟨on, rfl⟩ | rfl | rfl <;>
    exact ⟨_, _, rfl⟩

/-- What the commands of a plug say before they begin has no places to fill in. -/
theorem opens_of_own {d : Descriptor Plug} (hown : d ∈ Assembly.plugCommands) :
    (d.defaultOutput.getD (.announce d.name)).Opens := by
  rcases Assembly.cases_plugCommands hown with rfl | rfl | ⟨on, rfl⟩ | rfl | rfl
  · exact Output.opens_text Message.opens_empty _
  · have hannounce : (Output.announce "status").Opens := Output.opens_announce (by simp)
    exact hannounce
  · have hpower : (Message.ofTemplate ("Powering " ++ onOff on)).Opens := by
      have hplain : ∀ c ∈ ("Powering " ++ onOff on).toList, c ≠ '{' ∧ c ≠ '}' := by
        cases on <;> simp [onOff]
      exact Message.opens_template hplain
    exact Output.opens_text hpower _
  · exact Output.opens_text (Message.opens_composed ledMessage) _
  · have hannounce : (Output.announce "properties").Opens := Output.opens_announce (by simp)
    exact hannounce

/-- A plug ends every command but one with an outcome. -/
theorem yields (fresh : Connection) : group.Yields (connect fresh).base.transport where
  toShowsAll := showsAll
  tells := by
    intro command d hget values
    rcases Assembly.cases_ofPlug hget with hown | rfl
    · obtain ⟨pre, post, htext⟩ := text_of_own hown
      have hopens := opens_of_own hown
      have hconcludes := concludes_of_get? hget pre post htext
      rw [htext] at hopens ⊢
      exact Output.tells_of_opens hopens hconcludes _
    · exact GenericDevice.tells_rawCommand values
  ends := by
    intro command d hget words below hbelow context connection
    have hname := showsAll.coherent.name_of_get? hget
    rcases Assembly.cases_ofPlug hget with hown | rfl
    · obtain ⟨p', hproperties, hcore⟩ := core_eq d context (d.extractArguments below.values)
        (connect connection)
      have hfresh : p'.properties = PlugRecord.initial.entries := hproperties.trans rfl
      obtain ⟨outcome, hresult⟩ := exists_ok_method hown hfresh (d.extractArguments below.values)
      have hends : (Composed.compose d context).core group.type
          (d.extractArguments below.values) (group.type.connect connection)
            = d.method (d.extractArguments below.values) p' := hcore
      rw [hends, hresult]
      exact .outcome outcome (hname ▸ name_ne_of_own hown)
    · obtain ⟨hpath, method, literal, hmethod, hliteral⟩ :=
        GenericDevice.exists_values_rawCommand hbelow
      have hcore : (Composed.compose (GenericDevice.rawCommand.lift embedding) context).core
          group.type ((GenericDevice.rawCommand.lift embedding).extractArguments below.values)
          (group.type.connect connection)
            = embedding.lift GenericDevice.sendRaw
              (GenericDevice.rawCommand.extractArguments below.values) (connect connection) := rfl
      have hanswer := EndsWith.answer (s := (connect fresh).base.transport) method literal
        hname.symm hpath hmethod hliteral
      rw [hcore, lift_sendRaw (GenericDevice.requireText_rawCommand hmethod),
        GenericDevice.given?_rawCommand hliteral, Call.ofAnswer_value_result]
      exact hanswer

end Plug

/-! ## The program -/

/-- Either the commands' own strategies are in use or JSON is. -/
theorem Settings.override_cases (s : Settings) :
    s.output = .default
      ∨ s.output ≠ .default ∧ ∃ pretty, s.outputOverride = some (.json pretty) := by
  unfold outputOverride
  cases s.output with
  | default => exact Or.inl rfl
  | json => exact Or.inr ⟨by decide, false, rfl⟩
  | jsonPretty => exact Or.inr ⟨by decide, true, rfl⟩

namespace App

/-- A device of a group, just connected, refuses a request. -/
inductive Refuses (method : String) (params : Json) (error : DeviceError) : String → Prop where
  | device (connection : Connection) :
    ((GenericDevice.connect connection).transport.send method params).2 = .error error →
    Refuses method params error GenericDevice.group.name
  | plug (connection : Connection) :
    ((Plug.connect connection).base.transport.send method params).2 = .error error →
    Refuses method params error Plug.group.name

/-- What was found on the command line sends a request to a device of a group, and the device
refuses it. -/
def Refused (found : Matches) (group : String) (error : DeviceError) : Prop :=
  ∃ values below method literal, found.path = [(group, values), ("raw-command", below)]
    ∧ Entries.get? "command" below = some (.text method)
    ∧ Entries.get? "parameters" below = some (.literal literal)
    ∧ Refuses method (GenericDevice.rawParamsOf literal) error group

theorem refuses_device_iff {method : String} {params : Json} {error : DeviceError}
    (fresh : Connection) : Refuses method params error GenericDevice.group.name
      ↔ ((GenericDevice.connect fresh).transport.send method params).2 = .error error := by
  constructor
  · intro h
    generalize hname : GenericDevice.group.name = name at h
    cases h with
    | device connection hsend => exact hsend
    | plug connection hsend => exact absurd hname (by decide)
  · exact .device fresh

theorem refuses_plug_iff {method : String} {params : Json} {error : DeviceError}
    (fresh : Connection) : Refuses method params error Plug.group.name
      ↔ ((Plug.connect fresh).base.transport.send method params).2 = .error error := by
  constructor
  · intro h
    generalize hname : Plug.group.name = name at h
    cases h with
    | device connection hsend => exact absurd hname (by decide)
    | plug connection hsend => exact hsend
  · exact .plug fresh

/-- What is refused is the one request that was found. -/
theorem Refused.refuses {found : Matches} {group group' method : String} {literal : Json}
    {values below : Entries Value} {error : DeviceError} (h : Refused found group' error)
    (hpath : found.path = [(group, values), ("raw-command", below)])
    (hmethod : Entries.get? "command" below = some (.text method))
    (hliteral : Entries.get? "parameters" below = some (.literal literal)) :
    group' = group ∧ Refuses method (GenericDevice.rawParamsOf literal) error group := by
  obtain ⟨values', below', method', literal', hpath', hmethod', hliteral', hrefuses⟩ := h
  rw [hpath] at hpath'
  cases hpath'
  rw [hmethod] at hmethod'
  cases hmethod'
  rw [hliteral] at hliteral'
  cases hliteral'
  exact ⟨rfl, hrefuses⟩

/-- At most one device is asked, and it refuses in one way. -/
theorem Refused.unique {found : Matches} {group group' : String} {error error' : DeviceError}
    (h : Refused found group error) (h' : Refused found group' error') :
    group' = group ∧ error' = error := by
  obtain ⟨values, below, method, literal, hpath, hmethod, hliteral, hrefuses⟩ := h
  obtain ⟨hgroup, hrefuses'⟩ := h'.refuses hpath hmethod hliteral
  refine ⟨hgroup, ?_⟩
  cases hrefuses with
  | device connection hsend =>
    rw [(refuses_device_iff connection).1 hrefuses'] at hsend
    exact Except.error.inj hsend
  | plug connection hsend =>
    rw [(refuses_plug_iff connection).1 hrefuses'] at hsend
    exact Except.error.inj hsend

theorem path_of_subcommand? {found below : Matches} {name : String}
    (h : found.subcommand? = some (name, below)) :
    found.path = (name, below.values) :: below.path := by
  unfold Matches.subcommand? at h
  split at h
  · cases h
  · next hpath =>
    cases h
    exact hpath

/-- What was being done when a request was refused. -/
def refusalContext (group : String) : String :=
  "Command '" ++ group ++ " " ++ "raw-command" ++ "' failed"

/-- How a run ends in which no strategy goes before those of the commands. -/
inductive RunsPlainly (found : Matches) : Run → Prop where
  | done (printed : String) : (∀ group error, ¬ Refused found group error) →
    RunsPlainly found ⟨printed, none⟩
  | refused (printed group : String) (error : DeviceError) : Refused found group error →
    RunsPlainly found ⟨printed, some ⟨[refusalContext group], .dispatch (.device error)⟩⟩

/-- A group that ends its commands in one of two ways ends a run in one of two ways. -/
theorem runsPlainly_of_endsWith {catalog : Catalog} {g : Group δ} {found below under : Matches}
    {command : String} (hgroup : BelongsTo catalog g found below)
    (hunder : below.subcommand? = some (command, under)) {settings : Settings} {s : Simulator}
    (hrefuses : ∀ method params error, Refuses method params error g.name
      ↔ (s.send method params).2 = .error error)
    (hends : EndsWith s command under (g.dispatch settings.context below).result) :
    RunsPlainly found (run catalog found settings) := by
  have hdispatch : EndsWith s command under (g.toAny.dispatch settings.context below).result :=
    hends
  unfold run
  rw [hgroup.subcommand?]
  dsimp only
  rw [hgroup.get]
  dsimp only
  generalize (g.toAny.dispatch settings.context below).result = result at hdispatch
  cases hdispatch with
  | outcome outcome hname =>
    refine .done _ fun group' error hrefused => ?_
    obtain ⟨values, below', method, literal, hfound, -⟩ := hrefused
    exact hname (eq_of_path hgroup.path hfound hunder).2.1.symm
  | answer method literal hname hend hmethod hliteral =>
    subst hname
    have hfound : found.path = [(g.name, below.values), ("raw-command", under.values)] := by
      rw [hgroup.path, path_of_subcommand? hunder, hend]
    cases hsend : (s.send method (GenericDevice.rawParamsOf literal)).2 with
    | ok answer =>
      refine .done _ fun group' error hrefused => ?_
      -- what would be refused is the request that was answered
      obtain ⟨-, hrefuses'⟩ := hrefused.refuses hfound hmethod hliteral
      rw [hrefuses, hsend] at hrefuses'
      cases hrefuses'
    | error error =>
      have hcontext : commandContext g.name below = refusalContext g.name := by
        rw [commandContext, hunder]
        rfl
      have hrefused : Refused found g.name error :=
        ⟨below.values, under.values, method, literal, hfound, hmethod, hliteral,
          (hrefuses method _ error).2 hsend⟩
      have hrun := RunsPlainly.refused
        (Event.printed (g.toAny.dispatch settings.context below).events) g.name error hrefused
      rw [← hcontext] at hrun
      exact hrun

/-- **How a run ends** in which no strategy goes before those of the commands: it succeeds, or a
device refuses what it was asked on purpose. -/
theorem runsPlainly {catalog : Catalog} (hcatalog : Catalog.standard = .ok catalog)
    {words : List String} {found : Matches} (hparse : (command catalog).parse words = .ok found)
    {settings : Settings} (houtput : settings.output = .default) :
    RunsPlainly found (run catalog found settings) := by
  have hcontext : settings.context.output = none := by
    unfold Settings.context Settings.outputOverride
    rw [houtput]
  have fresh : Connection := ⟨"", "", none, 0⟩
  obtain ⟨below, hgroup | hgroup⟩ := exists_belongsTo hcatalog hparse
  · obtain ⟨words', hbelow⟩ := hgroup.parse
    obtain ⟨name, under, hunder, hends⟩ := (GenericDevice.yields fresh).dispatch hbelow hcontext
    exact runsPlainly_of_endsWith hgroup hunder (fun _ _ _ => refuses_device_iff fresh) hends
  · obtain ⟨words', hbelow⟩ := hgroup.parse
    obtain ⟨name, under, hunder, hends⟩ := (Plug.yields fresh).dispatch hbelow hcontext
    exact runsPlainly_of_endsWith hgroup hunder (fun _ _ _ => refuses_plug_iff fresh) hends

/-- An accepted command line names a group and one of its commands. -/
theorem exists_command_of_parse {catalog : Catalog} (hcatalog : Catalog.standard = .ok catalog)
    {words : List String} {found : Matches} (hparse : (command catalog).parse words = .ok found) :
    ∃ group below command under, found.subcommand? = some (group, below)
      ∧ below.subcommand? = some (command, under) := by
  obtain ⟨below, hgroup | hgroup⟩ := exists_belongsTo hcatalog hparse
  · obtain ⟨words', hbelow⟩ := hgroup.parse
    obtain ⟨-, -, command, -, under, -, -, hunder, -⟩ :=
      Group.exists_call_of_parse GenericDevice.showsAll.coherent hbelow
    exact ⟨_, below, command, under, hgroup.subcommand?, hunder⟩
  · obtain ⟨words', hbelow⟩ := hgroup.parse
    obtain ⟨-, -, command, -, under, -, -, hunder, -⟩ :=
      Group.exists_call_of_parse Plug.showsAll.coherent hbelow
    exact ⟨_, below, command, under, hgroup.subcommand?, hunder⟩

/-- All ways in which the program ends. -/
inductive Ends (catalog : Catalog) (world : World) (words : List String) : Exit → Prop where
  | stopped (fault : Fault) : (command catalog).parse words = .error fault →
    Ends catalog world words (stop fault)
  | unconfigured (found : Matches) (error : ConfigError) :
    (command catalog).parse words = .ok found → loadConfig world = .error error →
    Ends catalog world words (fail "" ⟨[], .config error⟩ [])
  | succeeded (found : Matches) (config : Config) (printed : String) :
    (command catalog).parse words = .ok found → loadConfig world = .ok config →
    ((Settings.resolve config found).output = .default → ∀ group error,
      ¬ Refused found group error) →
    Ends catalog world words ⟨printed, .success⟩
  | refused (found : Matches) (config : Config) (printed group : String) (error : DeviceError) :
    (command catalog).parse words = .ok found → loadConfig world = .ok config →
    (Settings.resolve config found).output = .default → Refused found group error →
    Ends catalog world words (fail printed
      ⟨[refusalContext group], .dispatch (.device error)⟩ (validCommands catalog found))

/-- **There are no other ways.** -/
theorem ends_process {catalog : Catalog} (hcatalog : Catalog.standard = .ok catalog)
    (world : World) (words : List String) : Ends catalog world words (process world words) := by
  unfold process processWith finish
  rw [hcatalog]
  dsimp only
  cases hparse : (command catalog).parse words with
  | error fault => exact .stopped fault hparse
  | ok found =>
    dsimp only
    cases hconfig : loadConfig world with
    | error error => exact .unconfigured found error hparse hconfig
    | ok config =>
      dsimp only
      rcases (Settings.resolve config found).override_cases with hmode | ⟨hmode, pretty, hjson⟩
      · have hends := runsPlainly hcatalog hparse hmode
        generalize run catalog found (.resolve config found) = run at hends
        cases hends with
        | done printed hnone =>
          exact .succeeded found config printed hparse hconfig fun _ => hnone
        | refused printed group error hrefused =>
          exact .refused found config printed group error hparse hconfig hmode hrefused
      · -- what a device sends along with a refusal is shown as any other value
        obtain ⟨v, hrun, -⟩ := run_json hcatalog hparse hjson
        rw [hrun]
        exact .succeeded found config _ hparse hconfig fun hdefault => absurd hdefault hmode

/-! ### The exit code of each way -/

/-- Whether a command line is rejected, or asks for a text to be shown. -/
theorem code_stop (fault : Fault) :
    (stop fault).ending.code = 0 ∧ (fault = .displayHelp ∨ fault = .displayVersion)
      ∨ (stop fault).ending.code = 2 ∧ fault ≠ .displayHelp ∧ fault ≠ .displayVersion
        ∧ (stop fault).printed = "" := by
  cases fault <;> simp [stop, Ending.code, Fault.exitCode, Fault.isRequest]

namespace Ends

variable {catalog : Catalog} {world : World} {words : List String} {exit : Exit}

theorem code_cases (h : Ends catalog world words exit) :
    exit.ending.code = 0 ∨ exit.ending.code = 1 ∨ exit.ending.code = 2 := by
  cases h with
  | stopped fault hparse =>
    rcases code_stop fault with ⟨hcode, -⟩ | ⟨hcode, -⟩
    · exact Or.inl hcode
    · exact Or.inr (Or.inr hcode)
  | unconfigured found error hparse hconfig => exact Or.inr (Or.inl rfl)
  | succeeded found config printed hparse hconfig hnone => exact Or.inl rfl
  | refused found config printed group error hparse hconfig hmode hrefused =>
    exact Or.inr (Or.inl rfl)

theorem code_eq_two_iff (h : Ends catalog world words exit) :
    exit.ending.code = 2 ↔ ∃ fault, (command catalog).parse words = .error fault
      ∧ fault ≠ .displayHelp ∧ fault ≠ .displayVersion := by
  -- once the command line is accepted, there is no fault
  have haccepted {found : Matches} (hparse : (command catalog).parse words = .ok found) :
      ¬ ∃ fault, (command catalog).parse words = .error fault
        ∧ fault ≠ .displayHelp ∧ fault ≠ .displayVersion := by
    rintro ⟨fault, hfault, -⟩
    rw [hparse] at hfault
    cases hfault
  cases h with
  | stopped fault hparse =>
    rcases code_stop fault with ⟨hcode, hrequest⟩ | ⟨hcode, hhelp, hversion, -⟩
    · refine iff_of_false (by rw [hcode]; decide) ?_
      rintro ⟨fault', hfault, hhelp, hversion⟩
      rw [hparse] at hfault
      cases hfault
      exact hrequest.elim hhelp hversion
    · exact iff_of_true hcode ⟨fault, hparse, hhelp, hversion⟩
  | unconfigured found error hparse hconfig =>
    exact iff_of_false (fun hcode => by cases hcode) (haccepted hparse)
  | succeeded found config printed hparse hconfig hnone =>
    exact iff_of_false (fun hcode => by cases hcode) (haccepted hparse)
  | refused found config printed group error hparse hconfig hmode hrefused =>
    exact iff_of_false (fun hcode => by cases hcode) (haccepted hparse)

theorem printed_of_code (h : Ends catalog world words exit) (hcode : exit.ending.code = 2) :
    exit.printed = "" := by
  cases h with
  | stopped fault hparse =>
    rcases code_stop fault with ⟨hzero, -⟩ | ⟨-, -, -, hprinted⟩
    · rw [hzero] at hcode
      cases hcode
    · exact hprinted
  | unconfigured found error hparse hconfig => rfl
  | succeeded found config printed hparse hconfig hnone => cases hcode
  | refused found config printed group error hparse hconfig hmode hrefused => cases hcode

theorem code_eq_one_iff (h : Ends catalog world words exit) :
    exit.ending.code = 1 ↔ ∃ found, (command catalog).parse words = .ok found
      ∧ ((∃ error, loadConfig world = .error error)
        ∨ ∃ config group error, loadConfig world = .ok config
          ∧ (Settings.resolve config found).output = .default ∧ Refused found group error) := by
  cases h with
  | stopped fault hparse =>
    refine iff_of_false ?_ ?_
    · rcases code_stop fault with ⟨hcode, -⟩ | ⟨hcode, -⟩
      · rw [hcode]
        decide
      · rw [hcode]
        decide
    · rintro ⟨found, hfound, -⟩
      rw [hparse] at hfound
      cases hfound
  | unconfigured found error hparse hconfig =>
    exact iff_of_true rfl ⟨found, hparse, Or.inl ⟨error, hconfig⟩⟩
  | succeeded found config printed hparse hconfig hnone =>
    refine iff_of_false (fun hcode => by cases hcode) ?_
    rintro ⟨found', hfound, ⟨error, herror⟩ | ⟨config', group, error, hloaded, hmode, hrefused⟩⟩
    · rw [hconfig] at herror
      cases herror
    · rw [hparse] at hfound
      cases hfound
      rw [hconfig] at hloaded
      cases hloaded
      exact hnone hmode group error hrefused
  | refused found config printed group error hparse hconfig hmode hrefused =>
    exact iff_of_true rfl
      ⟨found, hparse, Or.inr ⟨config, group, error, hconfig, hmode, hrefused⟩⟩

/-- What is reported of a refusal. -/
theorem exists_report (h : Ends catalog world words exit) {found : Matches} {config : Config}
    {group : String} {error : DeviceError} (hparse : (command catalog).parse words = .ok found)
    (hconfig : loadConfig world = .ok config)
    (hmode : (Settings.resolve config found).output = .default)
    (hrefused : Refused found group error) :
    ∃ report, exit.ending = .failed (.dispatch (.device error)) report
      ∧ report.message = refusalContext group ∧ report.details = [error.message] := by
  cases h with
  | stopped fault hfault =>
    rw [hparse] at hfault
    cases hfault
  | unconfigured found' error' hfound herror =>
    rw [hconfig] at herror
    cases herror
  | succeeded found' config' printed hfound hloaded hnone =>
    rw [hparse] at hfound
    cases hfound
    rw [hconfig] at hloaded
    cases hloaded
    exact absurd hrefused (hnone hmode group error)
  | refused found' config' printed group' error' hfound hloaded hmode' hrefused' =>
    rw [hparse] at hfound
    cases hfound
    obtain ⟨rfl, rfl⟩ := hrefused.unique hrefused'
    exact ⟨_, rfl, rfl, rfl⟩

end Ends

/-- Under JSON output a refusal is shown as what the device sends along with it. -/
theorem process_json_of_refused {catalog : Catalog} (hcatalog : Catalog.standard = .ok catalog)
    {words : List String} {found : Matches} (hparse : (command catalog).parse words = .ok found)
    {world : World} {config : Config} (hconfig : loadConfig world = .ok config) {pretty : Bool}
    (houtput : (Settings.resolve config found).outputOverride = some (.json pretty))
    {group : String} {error : DeviceError} (hrefused : Refused found group error) :
    (process world words).ending.code = 0
      ∧ ∃ payload, error.payload? = some payload
        ∧ (process world words).printed = Output.encode pretty payload ++ "\n" := by
  obtain ⟨values, below, method, literal, hpath, hmethod, hliteral, hrefuses⟩ := hrefused
  obtain ⟨v, hrun, hraw⟩ := run_json hcatalog hparse houtput
  obtain ⟨hdevice, hplug⟩ := hraw group values below method literal hpath hmethod hliteral
  have hpayload : error.payload? = some v := by
    cases hrefuses with
    | device connection hsend =>
      have hanswer := hdevice rfl connection
      rw [hsend] at hanswer
      exact hanswer
    | plug connection hsend =>
      have hanswer := hplug rfl connection
      rw [hsend] at hanswer
      exact hanswer
  rw [process_of_run hcatalog hparse hconfig hrun]
  exact ⟨rfl, v, hpayload, rfl⟩

/-- A request is refused as it is by whatever else finds the same groups and commands. -/
theorem Refused.of_path_eq {found found' : Matches} {group : String} {error : DeviceError}
    (h : Refused found group error) (hpath : found'.path = found.path) :
    Refused found' group error := by
  obtain ⟨values, below, method, literal, hfound, hrest⟩ := h
  exact ⟨values, below, method, literal, hpath.trans hfound, hrest⟩

/--
**Exit codes.**

For every environment, configuration and command line the exit code is 0, 1 or 2.

* It is 2 exactly when the command line is rejected and asks for no text to be shown; nothing is
  printed then, whatever the configuration is. What is accepted names a group and a command, so it
  is rejected where one of them is missing.
* It is 1 exactly when the command line is accepted and the configuration cannot be loaded, or it
  is loaded, nothing goes before the commands' own output, and a device refuses the request that it
  is sent by the command for any request.

In the last case the message of the report names the group and the command, and its details are the
text of the device's error. What the same groups, commands and arguments print under JSON output,
also in another environment, is what the device sends along with that error, and the exit code is 0.
-/
theorem process_code {catalog : Catalog} (hcatalog : Catalog.standard = .ok catalog)
    (world : World) (words : List String) :
    let exit := process world words
    let parsed := (command catalog).parse words
    (exit.ending.code = 0 ∨ exit.ending.code = 1 ∨ exit.ending.code = 2)
      ∧ (exit.ending.code = 2
        ↔ ∃ fault, parsed = .error fault ∧ fault ≠ .displayHelp ∧ fault ≠ .displayVersion)
      ∧ (exit.ending.code = 2 → exit.printed = "")
      ∧ (∀ found, parsed = .ok found → ∃ group below command under,
        found.subcommand? = some (group, below) ∧ below.subcommand? = some (command, under))
      ∧ (exit.ending.code = 1
        ↔ ∃ found, parsed = .ok found ∧ ((∃ error, loadConfig world = .error error)
          ∨ ∃ config group error, loadConfig world = .ok config
            ∧ (Settings.resolve config found).output = .default ∧ Refused found group error))
      ∧ ∀ found config group error, parsed = .ok found → loadConfig world = .ok config →
        (Settings.resolve config found).output = .default → Refused found group error →
        (∃ report, exit.ending = .failed (.dispatch (.device error)) report
            ∧ report.message = "Command '" ++ group ++ " " ++ "raw-command" ++ "' failed"
            ∧ report.details = [error.message])
          ∧ ∀ world' words' found' config' pretty,
            (command catalog).parse words' = .ok found' → found'.path = found.path →
            loadConfig world' = .ok config' →
            (Settings.resolve config' found').outputOverride = some (.json pretty) →
            (process world' words').ending.code = 0
              ∧ ∃ payload, error.payload? = some payload
                ∧ (process world' words').printed = Output.encode pretty payload ++ "\n" := by
  intro exit parsed
  have hends : Ends catalog world words exit := ends_process hcatalog world words
  refine ⟨hends.code_cases, hends.code_eq_two_iff, hends.printed_of_code,
    fun found hparse => exists_command_of_parse hcatalog hparse, hends.code_eq_one_iff, ?_⟩
  intro found config group error hparse hconfig hmode hrefused
  refine ⟨hends.exists_report hparse hconfig hmode hrefused, ?_⟩
  intro world' words' found' config' pretty hparse' hpath hconfig' hjson
  exact process_json_of_refused hcatalog hparse' hconfig' hjson (hrefused.of_path_eq hpath)

/-- A request that the plug refuses, shown as an error and as JSON. -/
theorem process_code_refused :
    let catalog : Catalog := ⟨[GenericDevice.group.toAny, Plug.group.toAny]⟩
    let words := ["plug", "--ip", "10.0.0.5", "--token=00112233445566778899aabbccddeeff",
      "raw-command", "set_led"]
    let words' := "--output" :: "json" :: words
    let world : World := ⟨[], Files.emptyAt []⟩
    Catalog.standard = .ok catalog ∧ (process world words).ending.code = 1
      ∧ (∃ error report, (process world words).ending = .failed error report
        ∧ report.message = "Command 'plug raw-command' failed"
        ∧ report.details
          = ["Device returned an error: invalid parameters for 'set_led': []"])
      ∧ (process world words').ending.code = 0
      ∧ (process world words').printed
        = "\x7b\"code\": -32602, \"message\": \"Invalid params\"\x7d\n" := by
  intro catalog words words' world
  let path : List (String × Entries Value) :=
    [("plug", [("ip", .text "10.0.0.5"), ("token", .text "00112233445566778899aabbccddeeff")]),
      ("raw-command", [("command", .text "set_led"), ("parameters", .literal (.array []))])]
  let found : Matches := ⟨[("debug", .count 0)], path⟩
  let found' : Matches := ⟨[("debug", .count 0), ("output", .text "json")], path⟩
  let error := Simulator.invalidParamsError "set_led" (.array [])
  have hcatalog : Catalog.standard = .ok catalog := standard_eq
  have hparse : (command catalog).parse words = .ok found := by
    rw [command, commands_standard hcatalog]
    rfl
  have hparse' : (command catalog).parse words' = .ok found' := by
    rw [command, commands_standard hcatalog]
    rfl
  have hconfig : loadConfig world = .ok Config.initial := rfl
  have hrefuses : Refuses "set_led" (.array []) error Plug.group.name := .plug ⟨"", "", none, 0⟩ rfl
  have hrefused : Refused found "plug" error :=
    ⟨_, _, "set_led", .array [], rfl, rfl, rfl, hrefuses⟩
  obtain ⟨-, -, -, -, hone, hreport⟩ := process_code hcatalog world words
  have hcode := hone.2 ⟨found, hparse, Or.inr ⟨_, "plug", error, hconfig, rfl, hrefused⟩⟩
  obtain ⟨⟨report, hending, hmessage, hdetails⟩, hjson⟩ :=
    hreport found _ "plug" error hparse hconfig rfl hrefused
  obtain ⟨hcode', payload, hpayload, hprinted⟩ :=
    hjson world words' found' _ false hparse' rfl hconfig rfl
  cases hpayload
  exact ⟨hcatalog, hcode, ⟨_, report, hending, hmessage, hdetails⟩, hcode', hprinted⟩

end App

end Switchboard
