import Switchboard.Group
import Switchboard.Proofs.Course
import Switchboard.Proofs.CommandLine.Values
import Switchboard.Proofs.Registries

/-!
# From the command line to the call

A group's command line is read in one place and acted on in another. Reading checks words by their
readers and finds subcommands among commands that were made from the registry; dispatch checks the
connection again, looks names up in the registry itself, and takes the texts out of what was found
by their ids. `Group.dispatch_of_parse` says that the two agree: whatever is read is acted on.

What the words in front of the command give is `Gives`, as `CommandLine/Given.lean` has it. It leads
to what was found by `Holds`, and from there each text is the word it was given with, since the
readers of the connection's arguments keep what they read.
-/

namespace Switchboard

open CommandLine

variable {δ : Type}

/-! ## Words that are kept -/

namespace CommandLine

/-- A reader that changes no word. -/
def Reader.Keeps (reader : Reader) : Prop :=
  ∀ word value, reader.read word = .ok value → value = .text word

/-- The word that an argument is given with. -/
def wordFor? (id : String) (gs : List Given) : Option String := (firstFor? id gs).bind Given.text?

/-- An option whose words are kept has its word as its text, and a text only by its word. -/
theorem Holds.word_cases {command : Command} (hids : (command.args.map Arg.id).Nodup)
    {gs : List Given} {found : Matches} (h : Holds command gs found.values) {arg : Arg}
    (hmem : arg ∈ command.args) {long : String} {reader : Reader}
    (hshape : arg.shape = .option long reader) (hdefault : arg.default = none)
    (hkeeps : reader.Keeps) :
    (∃ word, wordFor? arg.id gs = some word ∧ found.text? arg.id = some word
        ∧ reader.read word = .ok (.text word))
      ∨ (arg.required = false ∧ wordFor? arg.id gs = none ∧ found.text? arg.id = none) := by
  rcases h.value_cases hids hmem with ⟨reader', word, value, hfirst, hshape', hread, hget⟩ |
    ⟨long', -, hshape', -⟩ | ⟨long', letter, hshape'⟩ | ⟨hfirst, hoptional, hvalue⟩
  · have hreader : reader' = reader := by
      rcases hshape' with hshape' | ⟨long', hshape'⟩
      · rw [hshape] at hshape'
        cases hshape'
      · rw [hshape] at hshape'
        cases hshape'
        rfl
    subst hreader
    obtain rfl := hkeeps word value hread
    refine Or.inl ⟨word, ?_, ?_, hread⟩
    · rw [wordFor?, hfirst]
      rfl
    · rw [Matches.text?, hget]
  · rw [hshape] at hshape'
    cases hshape'
  · rw [hshape] at hshape'
    cases hshape'
  · refine Or.inr ⟨hoptional, ?_, ?_⟩
    · rw [wordFor?, hfirst]
      rfl
    · unfold Arg.defaultValue? at hvalue
      rw [hshape, hdefault] at hvalue
      rw [Matches.text?, ← Except.ok.inj hvalue]

/-- A required option has been given. -/
theorem Holds.required_word {command : Command} (hids : (command.args.map Arg.id).Nodup)
    {gs : List Given} {found : Matches} (h : Holds command gs found.values) {arg : Arg}
    (hmem : arg ∈ command.args) {long : String} {reader : Reader}
    (hshape : arg.shape = .option long reader) (hdefault : arg.default = none)
    (hkeeps : reader.Keeps) (hrequired : arg.required = true) :
    ∃ word, wordFor? arg.id gs = some word ∧ found.text? arg.id = some word
      ∧ reader.read word = .ok (.text word) := by
  rcases h.word_cases hids hmem hshape hdefault hkeeps with hgiven | ⟨hoptional, -⟩
  · exact hgiven
  · rw [hrequired] at hoptional
    cases hoptional

theorem keeps_text : Reader.text.Keeps := by
  intro word value h
  cases h
  rfl

theorem keeps_address : Reader.address.Keeps := by
  intro word value h
  obtain ⟨s, hparse, rfl⟩ := validated_eq_ok_iff.1 h
  unfold Address.parse at hparse
  split at hparse <;> cases hparse
  rfl

theorem keeps_token : Reader.token.Keeps := by
  intro word value h
  obtain ⟨s, hparse, rfl⟩ := validated_eq_ok_iff.1 h
  unfold Token.parse at hparse
  split at hparse <;> cases hparse
  rfl

end CommandLine

/-! ## What was found in a group -/

namespace Group

/-- What the words in front of a command give a connection: its address and its token, and a model
or none. -/
structure Gives (g : Group δ) (words : List String) (connection : Connection) : Prop where
  exists_given : ∃ gs, CommandLine.Gives g.toCommand 0 words gs
  address : ∀ gs, CommandLine.Gives g.toCommand 0 words gs →
    wordFor? "ip" gs = some connection.address
  token : ∀ gs, CommandLine.Gives g.toCommand 0 words gs →
    wordFor? "token" gs = some connection.token
  model : ∀ gs, CommandLine.Gives g.toCommand 0 words gs →
    wordFor? "model" gs = connection.model

theorem ids_toCommand (g : Group δ) : (g.toCommand.args.map Arg.id).Nodup :=
  show ["ip", "token", "model"].Nodup by decide

/-- Where the reading of a group's command line ends well, its words give a connection, which holds
what was found and passes the checks once more. -/
theorem exists_gives {g : Group δ} {words : List String} {found : Matches}
    (hgives : ∃ gs, CommandLine.Gives g.toCommand 0 words gs)
    (hholds : ∀ gs, CommandLine.Gives g.toCommand 0 words gs →
      Holds g.toCommand gs found.values) :
    ∃ connection : Connection, g.Gives words connection ∧ connection.debug = 0
      ∧ found.text? "ip" = some connection.address
      ∧ found.text? "token" = some connection.token
      ∧ found.text? "model" = connection.model
      ∧ connection.validate = .ok () := by
  have haddress : ∀ gs, CommandLine.Gives g.toCommand 0 words gs →
      ∃ word, wordFor? "ip" gs = some word ∧ found.text? "ip" = some word
        ∧ Reader.address.read word = .ok (.text word) := by
    intro gs hgs
    have hmem : connectionArgs[0] ∈ g.toCommand.args := List.getElem_mem _
    exact (hholds gs hgs).required_word g.ids_toCommand hmem rfl rfl keeps_address rfl
  have htoken : ∀ gs, CommandLine.Gives g.toCommand 0 words gs →
      ∃ word, wordFor? "token" gs = some word ∧ found.text? "token" = some word
        ∧ Reader.token.read word = .ok (.text word) := by
    intro gs hgs
    have hmem : connectionArgs[1] ∈ g.toCommand.args := List.getElem_mem _
    exact (hholds gs hgs).required_word g.ids_toCommand hmem rfl rfl keeps_token rfl
  have hmodel : ∀ gs, CommandLine.Gives g.toCommand 0 words gs →
      wordFor? "model" gs = found.text? "model" := by
    intro gs hgs
    have hmem : connectionArgs[2] ∈ g.toCommand.args := List.getElem_mem _
    rcases (hholds gs hgs).word_cases g.ids_toCommand hmem rfl rfl keeps_text with
      ⟨word, hword, htext, -⟩ | ⟨-, hword, htext⟩
    · exact hword.trans htext.symm
    · exact hword.trans htext.symm
  -- one way to read the words fixes the connection, and all others agree with what was found
  obtain ⟨gs, hgs⟩ := hgives
  obtain ⟨address, -, hip, hvalid⟩ := haddress gs hgs
  obtain ⟨token, -, htok, hlength⟩ := htoken gs hgs
  refine ⟨⟨address, token, found.text? "model", 0⟩, ⟨⟨gs, hgs⟩, ?_, ?_, hmodel⟩, rfl, hip, htok,
    rfl, ?_⟩
  · intro gs' hgs'
    obtain ⟨word, hword, htext, -⟩ := haddress gs' hgs'
    rw [hword, ← htext, hip]
  · intro gs' hgs'
    obtain ⟨word, hword, htext, -⟩ := htoken gs' hgs'
    rw [hword, ← htext, htok]
  · -- the readers of the words are the checks that are made again
    obtain ⟨address', hvalid', -⟩ := validated_eq_ok_iff.1 hvalid
    obtain ⟨token', hlength', -⟩ := validated_eq_ok_iff.1 hlength
    rw [Connection.validate, hvalid', hlength']
    rfl

/-- A subcommand of a group is a command of its registry. -/
theorem exists_get?_of_find? {g : Group δ} (hcoherent : g.registry.Coherent) {name : String}
    {sub : Command} (h : g.toCommand.find? name = some sub) :
    ∃ d, g.registry.get? name = some d ∧ d.toCommand = sub := by
  obtain ⟨entry, hentry, hsub⟩ := List.mem_map.1 (List.mem_of_find?_eq_some h)
  have hname : entry.1 = name := by
    rw [← hcoherent.name_eq entry hentry, ← Command.name_of_find? h, ← hsub]
    rfl
  refine ⟨entry.2, ?_, hsub⟩
  rw [← hname, Registry.get?, Entries.get?_eq_some_iff hcoherent.sorted.nodup]
  exact hentry

/-! ## Dispatch -/

theorem resolve_of_get? {g : Group δ} {command : String} {d : Descriptor δ}
    (h : g.registry.get? command = some d) (context : Context) :
    g.resolve command context = .ok (.compose d context) := by
  rw [resolve, h]

theorem connect_of_validate {g : Group δ} {connection : Connection}
    (h : connection.validate = .ok ()) (context : Context) :
    g.connect context connection
      = .ok ⟨g, context, g.type.connect { connection with debug := context.debug }⟩ := by
  rw [connect, h]

/-- With a command that there is and a connection that is valid, running once is a call on the
device. -/
theorem invoke_eq {g : Group δ} {command : String} {d : Descriptor δ}
    (hd : g.registry.get? command = some d) {connection : Connection}
    (h : connection.validate = .ok ()) (context : Context) (arguments : Arguments) :
    g.invoke context connection command arguments
      = ((Composed.compose d context).call g.type arguments
          (g.type.connect { connection with debug := context.debug })).onDevice some := by
  rw [invoke, resolve_of_get? hd, connect_of_validate h]
  rfl

theorem selection_eq {g : Group δ} {found below : Matches} {command : String} {d : Descriptor δ}
    (hsub : found.subcommand? = some (command, below)) (hd : g.registry.get? command = some d)
    {connection : Connection} (hdebug : connection.debug = 0)
    (haddress : found.text? "ip" = some connection.address)
    (htoken : found.text? "token" = some connection.token)
    (hmodel : found.text? "model" = connection.model) :
    g.selection found = .ok (connection, command, d.extractArguments below.values) := by
  unfold selection requiredText
  rw [hsub]
  dsimp only
  rw [hd, haddress, htoken, hmodel, ← hdebug]
  rfl

/-- What is found on an accepted command line is run on a connected device. -/
theorem exists_call_of_parse {g : Group δ} (hcoherent : g.registry.Coherent) {words : List String}
    {found : Matches} (h : g.toCommand.parse words = .ok found) :
    ∃ (front back : List String) (command : String) (d : Descriptor δ) (below : Matches)
      (connection : Connection),
      words = front ++ command :: back
        ∧ found.subcommand? = some (command, below) ∧ d.toCommand.parse back = .ok below
        ∧ g.registry.get? command = some d ∧ g.Gives front connection
        ∧ connection.validate = .ok ()
        ∧ ∀ context, g.dispatch context found
          = ((Composed.compose d context).call g.type (d.extractArguments below.values)
              (g.type.connect { connection with debug := context.debug })).onDevice some := by
  obtain ⟨front, back, sub, below, hwords, hfind, hparse, hpath, hgives, hholds⟩ :=
    Command.exists_holds_below g.ids_toCommand rfl rfl h
  obtain ⟨d, hd, rfl⟩ := exists_get?_of_find? hcoherent hfind
  have hsub : found.subcommand? = some (d.toCommand.name, below) := by
    rw [Matches.subcommand?, hpath]
  obtain ⟨connection, hconnection, hdebug, haddress, htoken, hmodel, hvalid⟩ :=
    exists_gives hgives hholds
  refine ⟨front, back, d.toCommand.name, d, below, connection, hwords, hsub, hparse, hd,
    hconnection, hvalid, fun context => ?_⟩
  rw [dispatch, selection_eq hsub hd hdebug haddress htoken hmodel]
  exact invoke_eq hd hvalid context _

/--
**What the command line accepts, dispatch accepts.**

Let a device type have a registry, however it came about, and let its group's command line be
accepted. Its words are those in front of a command, the name of the command, and those of the
command. The name is one of those listed and leads to the command, whose own words were accepted
too. The words in front give an address and a token, and maybe a model, and with them and the
context's level of logging the device is connected. Dispatch is then the call of the command on this
device, with an argument for each parameter and no other: nothing fails before the first stage of
the call.
-/
theorem dispatch_of_parse {type : DeviceType δ} {g : Group δ} (hgroup : ofType type = .ok g)
    {a : Assembly δ} (hbuilds : a.Builds g.registry) {words : List String} {found : Matches}
    (h : g.toCommand.parse words = .ok found) (context : Context) :
    ∃ (front back : List String) (command : String) (d : Descriptor δ) (below : Matches)
      (connection : Connection),
      words = front ++ command :: back
        ∧ found.subcommand? = some (command, below) ∧ d.toCommand.parse back = .ok below
        ∧ command ∈ g.registry.names ∧ g.registry.get? command = some d
        ∧ g.resolve command context = .ok (.compose d context)
        ∧ g.Gives front connection
        ∧ (let device := type.connect { connection with debug := context.debug }
          let arguments := d.extractArguments below.values
          g.connect context connection = .ok ⟨g, context, device⟩
            ∧ g.dispatch context found
              = ((Composed.compose d context).call type arguments device).onDevice some
            ∧ ∀ name, name ∈ Entries.names arguments ↔ name ∈ d.params.map Param.name) := by
  obtain ⟨registry, -, rfl⟩ := map_eq_ok_iff.1 hgroup
  have hcoherent := a.coherent_registry
  rw [← hbuilds.eq_registry] at hcoherent
  obtain ⟨front, back, command, d, below, connection, hwords, hsub, hbelow, hget, hgives, hvalid,
    hcall⟩ := exists_call_of_parse hcoherent h
  refine ⟨front, back, command, d, below, connection, hwords, hsub, hbelow, ?_, hget,
    resolve_of_get? hget context, hgives, connect_of_validate hvalid context, hcall context, ?_⟩
  · exact Entries.get?_isSome_iff.1 (Option.isSome_of_eq_some hget)
  · intro name
    have hnames : d.params.map Param.name
        = (d.params.map fun p => (p.name, p.extract below.values)).map (·.1) := by
      rw [List.map_map]
      rfl
    rw [hnames, Descriptor.extractArguments, Entries.mem_names_ofList]

/-- Switching the light of a plug off, on the command line and in the call. -/
theorem dispatch_of_parse_led :
    let g : Group Plug := ⟨Plug.type, Plug.registry⟩
    let words := ["--ip", "10.0.0.5", "--token=00112233445566778899aabbccddeeff", "led", "OFF"]
    let found : Matches :=
      ⟨[("ip", .text "10.0.0.5"), ("token", .text "00112233445566778899aabbccddeeff")],
        [("led", [("state", .text "off")])]⟩
    ofType Plug.type = .ok g ∧ Assembly.ofPlug.Builds g.registry
      ∧ g.toCommand.parse words = .ok found
      ∧ ∃ (front : List String) (d : Descriptor Plug) (connection : Connection),
        g.Gives front connection ∧ g.registry.get? "led" = some d
          ∧ g.dispatch ⟨2, none⟩ found
            = ((Composed.compose d ⟨2, none⟩).call Plug.type
                (d.extractArguments [("state", .text "off")])
                (Plug.connect { connection with debug := 2 })).onDevice some := by
  intro g words found
  have hgroup : ofType Plug.type = .ok g := rfl
  have hbuilds : Assembly.ofPlug.Builds g.registry := Assembly.builds_registry _
  have hparse : g.toCommand.parse words = .ok found := rfl
  obtain ⟨front, back, command, d, below, connection, -, hsub, -, -, hget, -, hgives, -, hcall,
    -⟩ := dispatch_of_parse hgroup hbuilds hparse ⟨2, none⟩
  cases hsub
  exact ⟨hgroup, hbuilds, hparse, front, d, connection, hgives, hget, hcall⟩

end Group

end Switchboard
