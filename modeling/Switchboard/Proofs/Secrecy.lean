import Switchboard.Proofs.CommandLine.Veil
import Switchboard.Proofs.MachineReadable

/-!
# The token stays secret

Nothing that the program shows depends on more of a token than its length: not the exit code, not
what is printed, not why a command line is rejected or a run fails. The veil that lies over what was
read from the command line (`CommandLine/Veil.lean`) goes on to the connection and from there to the
device. A device with its token veiled is a view of the device, and every method does to the view
what it does to the device (`Group.Veils`), so calls cannot tell them apart.
-/

namespace Switchboard

open CommandLine

variable {δ : Type}

/-! ## What was found -/

namespace CommandLine

theorem Value.veil_of_ne {id : String} (hid : id ≠ "token") (value : Value) :
    value.veil id = value := by
  cases value with
  | text token => exact if_neg hid
  | _ => rfl

theorem get?_veilValues_of_ne {id : String} (hid : id ≠ "token") (values : Entries Value) :
    Entries.get? id (veilValues values) = Entries.get? id values := by
  rw [get?_veilValues]
  cases Entries.get? id values with
  | none => rfl
  | some value => exact congrArg some (value.veil_of_ne hid)

namespace Matches

theorem text?_veil_of_ne {id : String} (hid : id ≠ "token") (found : Matches) :
    found.veil.text? id = found.text? id := by
  unfold text? veil
  dsimp only
  rw [get?_veilValues_of_ne hid]

theorem text?_veil_token (found : Matches) :
    found.veil.text? "token" = (found.text? "token").map Token.veil := by
  unfold text? veil
  dsimp only
  rw [get?_veilValues]
  cases Entries.get? "token" found.values with
  | none => rfl
  | some value => cases value <;> rfl

theorem count_veil (id : String) (found : Matches) : found.veil.count id = found.count id :=
  count_veilValues id found.values _ _

theorem subcommand?_veil (found : Matches) :
    found.veil.subcommand? = found.subcommand?.map fun (name, below) => (name, below.veil) := by
  obtain ⟨values, path⟩ := found
  cases path with
  | nil => rfl
  | cons entry path => rfl

end Matches

end CommandLine

/-- A command that reads no argument by the name of the token, on the command line or off it. -/
structure Descriptor.Unaware (d : Descriptor δ) : Prop where
  name : d.name.toList.head? ≠ some '-'
  long : ∀ p ∈ d.params, p.shape.long? ≠ some "token"
  param : ∀ p ∈ d.params, p.name ≠ "token"

theorem Descriptor.extractArguments_veil {d : Descriptor δ} (hd : d.Unaware)
    (values : Entries Value) :
    d.extractArguments (veilValues values) = d.extractArguments values := by
  unfold extractArguments
  refine congrArg Entries.ofList (List.map_congr_left fun p hp => ?_)
  unfold Param.extract
  rw [get?_veilValues_of_ne (hd.param p hp)]

/-- A word with a token names no subcommand that does not begin with a dash. -/
theorem CommandLine.Command.isFree_tokenWord {command : Command}
    (h : ∀ sub ∈ command.subcommands, sub.name.toList.head? ≠ some '-') (token : String) :
    command.IsFree (tokenWord token) :=
  isFree_of_dash h (by simp [tokenWord])

/-- A command that is unaware of the token has no option for it. -/
theorem Descriptor.throughout_guards {d : Descriptor δ} (hd : d.Unaware) :
    d.toCommand.Throughout Command.Guards := by
  refine .intro ⟨fun arg hfind => ?_, Command.isFree_tokenWord (List.forall_mem_nil _)⟩
    (List.forall_mem_nil _)
  obtain ⟨p, hp, rfl⟩ := List.mem_map.1 (List.mem_of_find?_eq_some hfind)
  have hlong := List.find?_some hfind
  exact absurd (of_decide_eq_true hlong) (hd.long p hp)

/-! ## Connections and devices -/

/-- A connection of whose token only the length is to be seen. -/
def Connection.veil (connection : Connection) : Connection :=
  { connection with token := Token.veil connection.token }

theorem Connection.validate_veil (connection : Connection) :
    connection.veil.validate = connection.validate := by
  unfold validate veil Token.parse
  dsimp only
  rw [Token.length_veil]
  split
  · rfl
  · rfl

/-- Devices of a group look alike to its commands if they do under a veil. -/
structure Group.Veils (g : Group δ) (veil : δ → δ) : Prop where
  coherent : g.registry.Coherent
  /-- What a veiled connection leads to is the veiled device. -/
  connect : ∀ connection, g.type.connect connection.veil = veil (g.type.connect connection)
  delegates : Delegates veil g.type g.type
  method : ∀ command d, g.registry.get? command = some d → Simulates veil d.method d.method
  unaware : ∀ command d, g.registry.get? command = some d → d.Unaware

/-- A call does to a veiled device what it does to the device. -/
theorem Composed.simulates_call {veil : δ → δ} {type : DeviceType δ}
    (hd : Delegates veil type type) {d : Descriptor δ} (hmethod : Simulates veil d.method d.method)
    (context : Context) :
    Simulates veil ((compose d context).call type) ((compose d context).call type) := by
  have hcore : Simulates veil ((compose d context).core type) ((compose d context).core type) := by
    unfold core
    split
    · exact hmethod.autodetect hd
    · exact hmethod
  rw [call_eq_nest]
  exact hcore.nest _

namespace Group

variable {g : Group δ} {veil : δ → δ}

theorem invoke_veil (h : g.Veils veil) (context : Context) (connection : Connection)
    (command : String) (arguments : Arguments) :
    (g.invoke context connection command arguments).onDevice (Option.map veil)
      = g.invoke context connection.veil command arguments := by
  unfold invoke resolve
  cases hget : g.registry.get? command with
  | none => rfl
  | some d =>
    dsimp only
    unfold connect
    rw [connection.validate_veil]
    cases connection.validate with
    | error error => rfl
    | ok _ =>
      dsimp only
      let logged : Connection := { connection with debug := context.debug }
      have hcall := Composed.simulates_call h.delegates (h.method command d hget) context arguments
        (g.type.connect logged)
      rw [← h.connect logged] at hcall
      have hsome := congrArg (Call.onDevice some) hcall
      exact hsome

theorem selection_veil (h : g.Veils veil) (found : Matches) :
    g.selection found.veil
      = (g.selection found).map fun (connection, command, arguments) =>
          (connection.veil, command, arguments) := by
  unfold selection
  rw [found.subcommand?_veil]
  cases found.subcommand? with
  | none => rfl
  | some chosen =>
    obtain ⟨command, below⟩ := chosen
    dsimp only [Option.map_some]
    cases hget : g.registry.get? command with
    | none => rfl
    | some d =>
      have hbelow : d.extractArguments below.veil.values = d.extractArguments below.values :=
        Descriptor.extractArguments_veil (h.unaware command d hget) below.values
      have haddress : found.veil.text? "ip" = found.text? "ip" :=
        Matches.text?_veil_of_ne (by decide) found
      have hmodel : found.veil.text? "model" = found.text? "model" :=
        Matches.text?_veil_of_ne (by decide) found
      dsimp only
      unfold requiredText
      rw [haddress, hmodel, Matches.text?_veil_token, hbelow]
      cases found.text? "ip" with
      | none => rfl
      | some address =>
        cases found.text? "token" with
        | none => rfl
        | some token => rfl

/-- **What a group runs does not depend on the token** but for its length. -/
theorem dispatch_veil (h : g.Veils veil) (context : Context) (found : Matches) :
    (g.dispatch context found).onDevice (Option.map veil) = g.dispatch context found.veil := by
  unfold dispatch
  rw [selection_veil h]
  cases g.selection found with
  | error error => rfl
  | ok selected =>
    obtain ⟨connection, command, arguments⟩ := selected
    exact invoke_veil h context connection command arguments

/-- Seen without its device, what a group runs is the same. -/
theorem toAny_dispatch_veil (h : g.Veils veil) (context : Context) (found : Matches) :
    g.toAny.dispatch context found.veil = g.toAny.dispatch context found := by
  have hcall := congrArg (Call.onDevice fun _ => ()) (dispatch_veil h context found)
  exact hcall.symm

/-! ### The group on the command line -/

/-- A group knows `--token` as its token, and its commands do not know it at all. -/
theorem throughout_guards (h : g.Veils veil) : g.toCommand.Throughout Command.Guards := by
  have hentry : ∀ sub ∈ g.toCommand.subcommands,
      ∃ d : Descriptor δ, d.Unaware ∧ d.toCommand = sub := by
    intro sub hsub
    obtain ⟨⟨name, d⟩, hmem, rfl⟩ := List.mem_map.1 hsub
    have hget := (Entries.get?_eq_some_iff h.coherent.sorted.nodup).2 hmem
    exact ⟨d, h.unaware name d hget, rfl⟩
  refine .intro ⟨fun arg hfind => ?_, Command.isFree_tokenWord fun sub hsub => ?_⟩
    fun sub hsub => ?_
  · have hargs : connectionArgs.find? (·.shape.long? = some "token")
        = some (connectionArg "token" "Device token (32 characters)" true .token) := by decide
    have hargs' : g.toCommand.args = connectionArgs := rfl
    rw [hargs', hargs] at hfind
    cases hfind
    exact ⟨rfl, rfl⟩
  · obtain ⟨d, hd, rfl⟩ := hentry sub hsub
    exact hd.name
  · obtain ⟨d, hd, rfl⟩ := hentry sub hsub
    exact d.throughout_guards hd

end Group

/-! ## The groups of the program -/

/-- A method that asks a device something, and asks a veiled device the same. -/
theorem Descriptor.simulates_build {α : Type} {veil : δ → δ} {outcome : α → Outcome}
    {ask : Arguments → δ → Answered δ α}
    (h : ∀ arguments device,
      ask arguments (veil device) = (veil (ask arguments device).1, (ask arguments device).2))
    (name : String) (declarations : List Declaration) :
    let d := Descriptor.build name
      (fun arguments device => .ofAnswer arguments outcome (ask arguments device)) declarations
    Simulates veil d.method d.method := by
  intro d arguments device
  unfold d
  rw [build_method, Call.onDevice_ofAnswer, ← h]

namespace GenericDevice

/-- A device of whose token only the length is to be seen. -/
def veil (d : GenericDevice) : GenericDevice := { d with connection := d.connection.veil }

theorem simulates_sendRaw : Simulates veil sendRaw sendRaw := by
  intro arguments d
  unfold sendRaw
  cases Arguments.requireText "command" arguments with
  | error error => rfl
  | ok method => exact Call.onDevice_ofAnswer veil arguments .value _

theorem veils : group.Veils veil where
  coherent := showsAll.coherent
  connect _ := rfl
  delegates := ⟨fun _ => rfl, fun _ => rfl⟩
  method := by
    intro command d hget
    rcases Assembly.cases_ofGenericDevice hget with rfl | rfl
    · exact Descriptor.simulates_build (fun _ _ => rfl) _ _
    · rw [rawCommand, Descriptor.build_method]
      exact simulates_sendRaw
  unaware := by
    intro command d hget
    rcases Assembly.cases_ofGenericDevice hget with rfl | rfl
    · exact ⟨by decide, List.forall_mem_nil _, List.forall_mem_nil _⟩
    · exact ⟨by decide, by decide, by decide⟩

end GenericDevice

namespace Plug

/-- A plug of whose token only the length is to be seen. -/
def veil (p : Plug) : Plug := ⟨p.base.veil⟩

theorem led_veil (p : Plug) (state : Option String) :
    p.veil.led state = ((p.led state).1.veil, (p.led state).2) := by
  cases state with
  | none => rfl
  | some state =>
    have htransport : p.veil.base.transport = p.base.transport := rfl
    unfold led
    dsimp only
    rw [send_eq, send_eq, htransport]
    cases (p.base.transport.send "set_led" (.array [.string state])).2 with
    | error error => rfl
    | ok answer => rfl

/-- What is taken over from generic devices does not look at the token either. -/
theorem simulates_lift {rest : Rest GenericDevice}
    (h : Simulates GenericDevice.veil rest rest) :
    Simulates veil (embedding.lift rest) (embedding.lift rest) := by
  intro arguments p
  have hcall := congrArg (embedding.liftCall p.veil) (h arguments p.base)
  exact hcall

theorem veils : group.Veils veil where
  coherent := showsAll.coherent
  connect _ := rfl
  delegates := ⟨fun _ => rfl, fun _ => rfl⟩
  method := by
    intro command d hget
    rcases Assembly.cases_ofPlug hget with hown | rfl
    · rcases Assembly.cases_plugCommands hown with rfl | rfl | ⟨on, rfl⟩ | rfl | rfl
      · exact Descriptor.simulates_build (fun _ _ => rfl) _ _
      · exact Descriptor.simulates_build (fun _ _ => rfl) _ _
      · exact Descriptor.simulates_build (fun _ _ => rfl) _ _
      · exact Descriptor.simulates_build (fun arguments p => p.led_veil _) _ _
      · exact Descriptor.simulates_build (fun _ _ => rfl) _ _
    · exact simulates_lift GenericDevice.simulates_sendRaw
  unaware := by
    intro command d hget
    rcases Assembly.cases_ofPlug hget with hown | rfl
    · rcases Assembly.cases_plugCommands hown with rfl | rfl | ⟨on, rfl⟩ | rfl | rfl
      · exact ⟨by decide, List.forall_mem_nil _, List.forall_mem_nil _⟩
      · exact ⟨by decide, List.forall_mem_nil _, List.forall_mem_nil _⟩
      · refine ⟨?_, List.forall_mem_nil _, List.forall_mem_nil _⟩
        cases on <;> decide
      · exact ⟨by decide, by decide, by decide⟩
      · exact ⟨by decide, List.forall_mem_nil _, List.forall_mem_nil _⟩
    · exact ⟨by decide, by decide, by decide⟩

end Plug

/-! ## The program -/

namespace App

/-- A catalog that makes no more of a token than its length. -/
def Discreet (catalog : Catalog) : Prop :=
  ∀ name any, catalog.get? name = some any → ∀ context found,
    any.dispatch context found.veil = any.dispatch context found

theorem run_veil {catalog : Catalog} (h : Discreet catalog) (found : Matches)
    (settings : Settings) : run catalog found.veil settings = run catalog found settings := by
  unfold run
  rw [found.subcommand?_veil]
  cases found.subcommand? with
  | none => rfl
  | some chosen =>
    obtain ⟨name, below⟩ := chosen
    dsimp only [Option.map_some]
    cases hget : catalog.get? name with
    | none => rfl
    | some any =>
      have hcontext : commandContext name below.veil = commandContext name below := by
        unfold commandContext
        rw [below.subcommand?_veil, Option.map_map]
        rfl
      dsimp only
      rw [h name any hget, hcontext]

theorem resolve_veil (config : Config) (found : Matches) :
    Settings.resolve config found.veil = Settings.resolve config found := by
  have houtput : found.veil.text? "output" = found.text? "output" :=
    Matches.text?_veil_of_ne (by decide) found
  unfold Settings.resolve
  rw [Matches.count_veil, houtput]

theorem validCommands_veil (catalog : Catalog) (found : Matches) :
    validCommands catalog found.veil = validCommands catalog found := by
  unfold validCommands
  rw [found.subcommand?_veil]
  cases found.subcommand? with
  | none => rfl
  | some chosen => rfl

/-- A run ends as it does under the veil. -/
theorem finish_veil {catalog : Catalog} (h : Discreet catalog) (world : World)
    (found : Matches) : finish catalog world found.veil = finish catalog world found := by
  unfold finish
  cases loadConfig world with
  | error error => rfl
  | ok config =>
    dsimp only
    rw [resolve_veil, run_veil h, validCommands_veil]

/-- So command lines that are read alike are run alike. -/
theorem processWith_alike {catalog : Catalog} (h : Discreet catalog) (world : World)
    {words words' : List String}
    (hparse : ((command catalog).parse words).map Matches.veil
      = ((command catalog).parse words').map Matches.veil) :
    processWith catalog world words = processWith catalog world words' := by
  unfold processWith
  cases hfound : (command catalog).parse words with
  | error fault =>
    rw [hfound] at hparse
    cases hfound' : (command catalog).parse words' with
    | error fault' =>
      rw [hfound'] at hparse
      cases hparse
      rfl
    | ok found' =>
      rw [hfound'] at hparse
      cases hparse
  | ok found =>
    rw [hfound] at hparse
    cases hfound' : (command catalog).parse words' with
    | error fault' =>
      rw [hfound'] at hparse
      cases hparse
    | ok found' =>
      rw [hfound'] at hparse
      have hveil : found.veil = found'.veil := Except.ok.inj hparse
      dsimp only
      rw [← finish_veil h world found, hveil, finish_veil h]

theorem discreet_standard {catalog : Catalog} (hcatalog : Catalog.standard = .ok catalog) :
    Discreet catalog := by
  rw [standard_eq] at hcatalog
  cases hcatalog
  intro name any hget context found
  have hmem : any ∈ [GenericDevice.group.toAny, Plug.group.toAny] := List.mem_of_find?_eq_some hget
  rcases List.mem_cons.1 hmem with rfl | hmem
  · exact Group.toAny_dispatch_veil GenericDevice.veils context found
  · rw [List.mem_singleton.1 hmem]
    exact Group.toAny_dispatch_veil Plug.veils context found

/-- The program knows `--token` only in its groups. -/
theorem throughout_guards {catalog : Catalog} (hcatalog : Catalog.standard = .ok catalog) :
    (command catalog).Throughout Command.Guards := by
  refine .intro ⟨fun arg hfind => ?_, Command.isFree_tokenWord fun sub hsub => ?_⟩
    fun sub hsub => ?_
  · have hargs : globalArgs.find? (·.shape.long? = some "token") = none := by decide
    have hargs' : (command catalog).args = globalArgs := rfl
    rw [hargs', hargs] at hfind
    cases hfind
  · rcases cases_of_mem hcatalog hsub with rfl | rfl
    · decide
    · decide
  · rcases cases_of_mem hcatalog hsub with rfl | rfl
    · exact Group.throughout_guards GenericDevice.veils
    · exact Group.throughout_guards Plug.veils

/--
**The token does not leak.**

Let a word of a command line be `--token=` and a token, wherever it stands, as long as no `--` is in
front of it: a token has its place behind the name of a group, and anywhere else the word is wrong.
With another token of the same length in its place, the program ends in the same way: it prints the
same, and either succeeds as before, or stops with the same fault and the same message of the reader
of values, or fails with the same error and the same report; so the exit code is the same, too.
-/
theorem process_token (world : World) {front : List String} (hfront : "--" ∉ front)
    {token₁ token₂ : String} (hlength : token₁.length = token₂.length) (back : List String) :
    process world (front ++ ("--token=" ++ token₁) :: back)
      = process world (front ++ ("--token=" ++ token₂) :: back) := by
  cases hcatalog : Catalog.standard with
  | error error =>
    rw [standard_eq] at hcatalog
    cases hcatalog
  | ok catalog =>
    unfold process
    rw [hcatalog]
    exact processWith_alike (discreet_standard hcatalog) world
      (Command.parse_token (throughout_guards hcatalog) hfront hlength back)

/-- A light that is switched off, with either of two tokens. -/
theorem process_token_led :
    let world : World := ⟨[], Files.emptyAt []⟩
    let front := ["plug", "--ip", "10.0.0.5"]
    let token₁ := "00112233445566778899aabbccddeeff"
    let token₂ := "ffeeddccbbaa99887766554433221100"
    "--" ∉ front ∧ token₁.length = token₂.length ∧ token₁ ≠ token₂
      ∧ process world (front ++ ("--token=" ++ token₁) :: ["led", "off"])
        = process world (front ++ ("--token=" ++ token₂) :: ["led", "off"]) := by
  intro world front token₁ token₂
  have hfront : "--" ∉ front := by decide
  have hlength : token₁.length = token₂.length := by decide
  exact ⟨hfront, hlength, by decide, process_token world hfront hlength ["led", "off"]⟩

end App

end Switchboard
