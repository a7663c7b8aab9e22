import Switchboard.App
import Switchboard.Proofs.Choices
import Switchboard.Proofs.CommandLine.Fronts
import Switchboard.Proofs.Dispatch
import Switchboard.Proofs.MachineReadable
import Switchboard.Proofs.Numerals

/-!
# Where settings come from

A setting may stand in a file, in the environment, and on the command line. The three settings come
from these sources one by one: each has the value of the first source that says something about it,
and no source of one decides another.

`FirstOf` is the first source that says something. A source more in front keeps it
(`FirstOf.getD`), and so each setting is followed from the file through the environment to the
command line. `Config.Fails` says what keeps a configuration from being loaded; the command line is
not asked for that.

The environment only says something in a variable that is set to a text. One that is set to other
bytes is passed over, and so it does not keep a configuration from being loaded, as any text does
that is no setting. `Config.IsFaulty` makes no such difference.
-/

namespace Switchboard

open CommandLine

/-! ## What texts mean -/

namespace OutputMode

theorem ofName?_eq_some_iff {word : String} {mode : OutputMode} :
    ofName? word = some mode ↔ mode.name = word := by
  constructor
  · intro h
    have hname := List.find?_some h
    exact of_decide_eq_true hname
  · rintro rfl
    cases mode <;> rfl

/-- A word that names a mode in some case of its English letters. -/
def IsNamedBy (word : String) (mode : OutputMode) : Prop :=
  Choice.folded mode.name = Choice.folded word

/-- No two modes have names that differ in case only. -/
theorem ofNameInAnyCase?_eq_some_iff (word : String) (mode : OutputMode) :
    ofNameInAnyCase? word = some mode ↔ mode.IsNamedBy word := by
  constructor
  · intro h
    have hname := List.find?_some h
    exact (Choice.eqIgnoringAsciiCase_iff _ _).1 hname
  · intro h
    have hfolded : (fun other : OutputMode =>
        Text.eqIgnoringAsciiCase other.name.toList word.toList)
        = fun other => decide (Choice.folded other.name = Choice.folded mode.name) := by
      funext other
      rw [Bool.eq_iff_iff, Choice.eqIgnoringAsciiCase_iff, decide_eq_true_eq, h]
    rw [ofNameInAnyCase?, hfolded]
    cases mode <;> decide

end OutputMode

namespace Config

/-- A word that denotes a level of logging: decimal digits, maybe after a plus sign, for a number
that fits a byte. -/
structure DenotesLevel (word : String) (level : Nat) : Prop where
  denotes : Decimal.Denotes word.toList level
  unsigned : word.toList.head? ≠ some '-'
  le : level ≤ 255

theorem debugOfText?_eq_some_iff (word : String) (level : Nat) :
    debugOfText? word = some level ↔ DenotesLevel word level := by
  have hread (n : Int) : Decimal.integer 0 greatestDebug word.toList = .ok n
      ↔ Decimal.Denotes word.toList n ∧ word.toList.head? ≠ some '-' ∧ 0 ≤ n ∧ n ≤ 255 := by
    rw [Decimal.integer_eq_ok_iff (by decide) (by decide)]
    simp only [Int.lt_irrefl, imp_false]
    rfl
  unfold debugOfText?
  constructor
  · intro h
    split at h
    · next n hok =>
      cases h
      obtain ⟨hdenotes, hunsigned, hnonneg, hle⟩ := (hread n).1 hok
      refine ⟨?_, hunsigned, by omega⟩
      rwa [Int.toNat_of_nonneg hnonneg]
    · cases h
  · rintro ⟨hdenotes, hunsigned, hle⟩
    rw [(hread level).2 ⟨hdenotes, hunsigned, by omega, by omega⟩]
    rfl

end Config

/-! ## Sources -/

/-- A value by the first of some sources that says something about it. What a source says is what
holds of the value; where all are silent, there is an initial value. -/
inductive FirstOf {α : Type} (initial : α) : List (Option (α → Prop)) → α → Prop where
  | first {said : α → Prop} {sources : List (Option (α → Prop))} {value : α} :
      said value → FirstOf initial (some said :: sources) value
  | silent {sources : List (Option (α → Prop))} {value : α} :
      FirstOf initial sources value → FirstOf initial (none :: sources) value
  | initial : FirstOf initial [] initial

/-- A source is read: it is not there and sets nothing, or it sets what it says. -/
def IsRead {α β : Type} (source : Option β) (means : β → α → Prop) (setting : Option α) : Prop :=
  (source = none ∧ setting = none) ∨ ∃ b a, source = some b ∧ means b a ∧ setting = some a

/-- A source that is not there, or says what means something. -/
def IsMeant {α β : Type} (source : Option β) (means : β → α → Prop) : Prop :=
  ∀ b, source = some b → ∃ a, means b a

theorem isMeant_or {α β : Type} (source : Option β) (means : β → α → Prop) :
    IsMeant source means ∨ ∃ b, source = some b ∧ ∀ a, ¬ means b a := by
  by_cases h : IsMeant source means
  · exact Or.inl h
  · obtain ⟨b, hb⟩ := not_forall.1 h
    obtain ⟨hsource, hnot⟩ := Classical.not_imp.1 hb
    exact Or.inr ⟨b, hsource, not_exists.1 hnot⟩

/-- **A source goes before others.** -/
theorem FirstOf.getD {α β : Type} {initial value : α} {sources : List (Option (α → Prop))}
    (h : FirstOf initial sources value) {source : Option β} {means : β → α → Prop}
    {setting : Option α} (hread : IsRead source means setting) :
    FirstOf initial (source.map means :: sources) (setting.getD value) := by
  rcases hread with ⟨rfl, rfl⟩ | ⟨b, a, rfl, hmeans, rfl⟩
  · exact .silent h
  · exact .first hmeans

/-! ## The configuration -/

namespace Config

/-- What a file says about the output mode. -/
def outputInFile (file : Toml.Members) : Option (OutputMode → Prop) :=
  (Toml.find? "output" file).map fun value mode => outputOf? value = some mode

/-- What a file says about the level of logging. -/
def debugInFile (file : Toml.Members) : Option (Nat → Prop) :=
  (Toml.find? "debug" file).map fun value level => debugOf? value = some level

/-- What a file says about which log messages are shown. -/
def logInFile (file : Toml.Members) : Option (Option String → Prop) :=
  (Toml.find? "log" file).map fun value log => ∃ s, textOf? value = some s ∧ log = some s

/-- What the environment says about the output mode. -/
def outputInEnvironment (env : Environment) : Option (OutputMode → Prop) :=
  (env.text? outputVariable).map OutputMode.IsNamedBy

/-- What the environment says about the level of logging. -/
def debugInEnvironment (env : Environment) : Option (Nat → Prop) :=
  (env.text? debugVariable).map DenotesLevel

/-- What the environment says about which log messages are shown. -/
def logInEnvironment (env : Environment) : Option (Option String → Prop) :=
  (env.text? logVariable).map fun word log => log = some word

theorem isRead_setting? {α : Type} {read : Toml → Option α} {key : String}
    {members : Toml.Members} {setting : Option α} (h : setting? read key members = some setting) :
    IsRead (Toml.find? key members) (fun value a => read value = some a) setting := by
  unfold setting? at h
  split at h
  · next hfind => exact Or.inl ⟨hfind, (Option.some.inj h).symm⟩
  · next value hfind =>
    obtain ⟨a, hread, rfl⟩ := Option.map_eq_some_iff.1 h
    exact Or.inr ⟨value, a, hfind, hread, rfl⟩

/-- **The settings of a file.** -/
theorem firstOf_ofTable? {members : Toml.Members} {config : Config}
    (h : ofTable? members = some config) :
    FirstOf .default [outputInFile members] config.output
      ∧ FirstOf 0 [debugInFile members] config.debug
      ∧ FirstOf none [logInFile members] config.log := by
  obtain ⟨output, houtput, h⟩ := Option.bind_eq_some_iff.1 h
  obtain ⟨debug, hdebug, h⟩ := Option.bind_eq_some_iff.1 h
  obtain ⟨log, hlog, h⟩ := Option.bind_eq_some_iff.1 h
  cases h
  refine ⟨FirstOf.initial.getD (isRead_setting? houtput),
    FirstOf.initial.getD (isRead_setting? hdebug), ?_⟩
  have hread : IsRead (Toml.find? "log" members)
      (fun value log => ∃ s, textOf? value = some s ∧ log = some s) (log.map some) := by
    rcases isRead_setting? hlog with ⟨hfind, rfl⟩ | ⟨value, s, hfind, hread, rfl⟩
    · exact Or.inl ⟨hfind, rfl⟩
    · exact Or.inr ⟨value, some s, hfind, ⟨s, hread, rfl⟩, rfl⟩
  have hfirst : FirstOf none [logInFile members] ((log.map some).getD none) :=
    FirstOf.initial.getD hread
  cases log <;> exact hfirst

section
variable {α : Type} {env : Environment} {name : String} {read : String → Option α}
  {means : String → α → Prop}

/-- A variable that is set to a text that it may be set to is read. -/
theorem exists_environmentSetting? (hread : ∀ word a, read word = some a ↔ means word a)
    (h : IsMeant (env.text? name) means) :
    ∃ setting, environmentSetting? env name read = .ok setting
      ∧ IsRead (env.text? name) means setting := by
  unfold environmentSetting?
  cases hget : env.text? name with
  | none => exact ⟨none, rfl, Or.inl ⟨rfl, rfl⟩⟩
  | some word =>
    obtain ⟨a, hmeans⟩ := h word hget
    dsimp only
    rw [(hread word a).2 hmeans]
    exact ⟨some a, rfl, Or.inr ⟨word, a, rfl, hmeans, rfl⟩⟩

/-- A variable that is set to any other text is an error. -/
theorem environmentSetting?_eq_error (hread : ∀ word a, read word = some a ↔ means word a)
    {word : String} (hget : env.text? name = some word) (hnot : ∀ a, ¬ means word a) :
    environmentSetting? env name read = .error (.invalidEnv name word) := by
  have hnone : read word = none :=
    Option.eq_none_iff_forall_ne_some.2 fun a ha => hnot a ((hread word a).1 ha)
  unfold environmentSetting?
  rw [hget]
  dsimp only
  rw [hnone]

end

/-- **The settings of the environment go before others.** -/
theorem exists_mergeEnvironment {env : Environment} {base : Config}
    (hmode : IsMeant (env.text? outputVariable) OutputMode.IsNamedBy)
    (hlevel : IsMeant (env.text? debugVariable) DenotesLevel)
    {outputs : List (Option (OutputMode → Prop))} {debugs : List (Option (Nat → Prop))}
    {logs : List (Option (Option String → Prop))} (houtput : FirstOf .default outputs base.output)
    (hdebug : FirstOf 0 debugs base.debug) (hlog : FirstOf none logs base.log) :
    ∃ config, mergeEnvironment env base = .ok config
      ∧ FirstOf .default (outputInEnvironment env :: outputs) config.output
      ∧ FirstOf 0 (debugInEnvironment env :: debugs) config.debug
      ∧ FirstOf none (logInEnvironment env :: logs) config.log := by
  obtain ⟨output, hread, hmode⟩ :=
    exists_environmentSetting? OutputMode.ofNameInAnyCase?_eq_some_iff hmode
  obtain ⟨debug, hread', hlevel⟩ :=
    exists_environmentSetting? debugOfText?_eq_some_iff hlevel
  rw [mergeEnvironment, hread, hread']
  refine ⟨_, rfl, houtput.getD hmode, hdebug.getD hlevel, ?_⟩
  unfold logInEnvironment
  cases env.text? logVariable with
  | none => exact .silent hlog
  | some word => exact .first rfl

/-! ### Loading -/

/-- The table that a file holds; without a file, an empty one. -/
inductive Stands (files : Files) : Option String → Toml.Members → Prop where
  | none : Stands files none []
  | file {path text : String} {members : Toml.Members} : files.readText path = .ok text →
      Toml.parse? text = some members → Stands files (some path) members

/-- Where nothing is wrong with the file. -/
def IsSound (files : Files) (path : Option String) : Prop :=
  ∀ p, path = some p → ∃ text config, files.readText p = .ok text ∧ ofText? text = some config

/-- Why a configuration is not loaded. Of several reasons the first one counts: the file cannot be
read, or it cannot be parsed, or a variable is set to a text that is no mode, or to one that is no
level. -/
inductive Fails (env : Environment) (files : Files) (path : Option String) :
    ConfigError → Prop where
  | read {p : String} {fault : ReadFault} : path = some p → files.readText p = .error fault →
      Fails env files path (.read p fault.message)
  | parse {p text : String} : path = some p → files.readText p = .ok text →
      ofText? text = none → Fails env files path (.parse p)
  | output {word : String} : IsSound files path → env.text? outputVariable = some word →
      (∀ mode : OutputMode, ¬ mode.IsNamedBy word) →
      Fails env files path (.invalidEnv outputVariable word)
  | debug {word : String} : IsSound files path →
      IsMeant (env.text? outputVariable) OutputMode.IsNamedBy →
      env.text? debugVariable = some word → (∀ level, ¬ DenotesLevel word level) →
      Fails env files path (.invalidEnv debugVariable word)

theorem file_cases (files : Files) (path : Option String) :
    IsSound files path
      ∨ (∃ p fault, path = some p ∧ files.readText p = .error fault)
      ∨ ∃ p text, path = some p ∧ files.readText p = .ok text ∧ ofText? text = none := by
  cases path with
  | none => exact Or.inl nofun
  | some p =>
    cases hread : files.readText p with
    | error fault => exact Or.inr (Or.inl ⟨p, fault, rfl, hread⟩)
    | ok text =>
      cases hof : ofText? text with
      | none => exact Or.inr (Or.inr ⟨p, text, rfl, hread, hof⟩)
      | some config =>
        refine Or.inl fun p' hp' => ?_
        cases hp'
        exact ⟨text, config, hread, hof⟩

theorem load_some (env : Environment) (files : Files) (p : String) :
    load env files (some p) = (ofFile files p).bind (mergeEnvironment env) := rfl

/-- A file that is sound, or none, leaves the settings that it holds to the environment. -/
theorem load_of_isSound {files : Files} {path : Option String} (h : IsSound files path) :
    ∃ file base, Stands files path file
      ∧ FirstOf .default [outputInFile file] base.output
      ∧ FirstOf 0 [debugInFile file] base.debug
      ∧ FirstOf none [logInFile file] base.log
      ∧ ∀ env, load env files path = mergeEnvironment env base := by
  cases path with
  | none =>
    obtain ⟨houtput, hdebug, hlog⟩ := firstOf_ofTable? (rfl : ofTable? [] = some initial)
    exact ⟨[], initial, .none, houtput, hdebug, hlog, fun _ => rfl⟩
  | some p =>
    obtain ⟨text, config, hread, hof⟩ := h p rfl
    obtain ⟨file, hparse, htable⟩ := Option.bind_eq_some_iff.1 hof
    obtain ⟨houtput, hdebug, hlog⟩ := firstOf_ofTable? htable
    refine ⟨file, config, .file hread hparse, houtput, hdebug, hlog, fun env => ?_⟩
    rw [load_some, ofFile, hread]
    dsimp only
    rw [hof]
    rfl

section
variable {env : Environment} {files : Files} {path : Option String} {error : ConfigError}

/-- A reason keeps the configuration from being loaded. -/
theorem Fails.load_eq (h : Fails env files path error) : load env files path = .error error := by
  cases h with
  | read hpath hread =>
    subst hpath
    rw [load_some, ofFile, hread]
    rfl
  | parse hpath hread hof =>
    subst hpath
    rw [load_some, ofFile, hread]
    dsimp only
    rw [hof]
    rfl
  | output hsound hget hnot =>
    obtain ⟨file, base, -, -, -, -, hload⟩ := load_of_isSound hsound
    rw [hload, mergeEnvironment,
      environmentSetting?_eq_error OutputMode.ofNameInAnyCase?_eq_some_iff hget hnot]
    rfl
  | debug hsound hmode hget hnot =>
    obtain ⟨file, base, -, -, -, -, hload⟩ := load_of_isSound hsound
    obtain ⟨output, hread, -⟩ :=
      exists_environmentSetting? OutputMode.ofNameInAnyCase?_eq_some_iff hmode
    rw [hload, mergeEnvironment, hread,
      environmentSetting?_eq_error debugOfText?_eq_some_iff hget hnot]
    rfl

/-- **A configuration is loaded unless there is a reason**, and each of its settings has the value
of the first source that says something about it. -/
theorem fails_or_load (env : Environment) (files : Files) (path : Option String) :
    (∃ error, Fails env files path error)
      ∨ ∃ config file, load env files path = .ok config ∧ Stands files path file
        ∧ FirstOf .default [outputInEnvironment env, outputInFile file] config.output
        ∧ FirstOf 0 [debugInEnvironment env, debugInFile file] config.debug
        ∧ FirstOf none [logInEnvironment env, logInFile file] config.log := by
  rcases file_cases files path with
    hsound | ⟨p, fault, hpath, hread⟩ | ⟨p, text, hpath, hread, hof⟩
  · rcases isMeant_or (env.text? outputVariable) OutputMode.IsNamedBy with
      hmode | ⟨word, hget, hnot⟩
    · rcases isMeant_or (env.text? debugVariable) DenotesLevel with
        hlevel | ⟨word, hget, hnot⟩
      · obtain ⟨file, base, hstands, houtput, hdebug, hlog, hload⟩ := load_of_isSound hsound
        obtain ⟨config, hmerge, hfirst⟩ :=
          exists_mergeEnvironment hmode hlevel houtput hdebug hlog
        exact Or.inr ⟨config, file, (hload env).trans hmerge, hstands, hfirst⟩
      · exact Or.inl ⟨_, .debug hsound hmode hget hnot⟩
    · exact Or.inl ⟨_, .output hsound hget hnot⟩
  · exact Or.inl ⟨_, .read hpath hread⟩
  · exact Or.inl ⟨_, .parse hpath hread hof⟩

theorem load_eq_error_iff : load env files path = .error error ↔ Fails env files path error := by
  refine ⟨fun h => ?_, Fails.load_eq⟩
  rcases fails_or_load env files path with ⟨error', hfails⟩ | ⟨config, file, hload, -⟩
  · rw [hfails.load_eq] at h
    cases h
    exact hfails
  · rw [hload] at h
    cases h

end

end Config

/-! ## The command line -/

namespace CommandLine

theorem keeps_oneOf (words : List String) : (Reader.oneOf words).Keeps := by
  intro word value h
  rw [Reader.read] at h
  split at h <;> cases h
  rfl

theorem mem_of_read_oneOf {words : List String} {word : String} {value : Value}
    (h : (Reader.oneOf words).read word = .ok value) : word ∈ words := by
  rw [Reader.read] at h
  split at h
  · next hmem => exact hmem
  · cases h

end CommandLine

namespace App

variable {catalog : Catalog} {words : List String} {found : Matches} {gs : List Given}

/-- What the words in front of the name of a group give. -/
def Leads (catalog : Catalog) (words : List String) (gs : List Given) : Prop :=
  ∃ front name back group, words = front ++ name :: back
    ∧ (command catalog).find? name = some group ∧ Gives (command catalog) 0 front gs

theorem ids_command (catalog : Catalog) : ((command catalog).args.map Arg.id).Nodup :=
  show ["debug", "output"].Nodup by decide

theorem exists_leads (h : (command catalog).parse words = .ok found) :
    ∃ gs, Leads catalog words gs := by
  obtain ⟨front, back, group, below, hwords, hfind, -, -, ⟨gs, hgs⟩, -⟩ :=
    Command.exists_holds_below (ids_command catalog) rfl rfl h
  exact ⟨gs, front, group.name, back, group, hwords, hfind, hgs⟩

theorem Leads.holds (hgs : Leads catalog words gs)
    (h : (command catalog).parse words = .ok found) :
    Holds (command catalog) gs found.values := by
  obtain ⟨front, name, back, group, rfl, hfind, hgives⟩ := hgs
  obtain ⟨below, -, -, hholds⟩ :=
    Command.holds_of_front (ids_command catalog) rfl rfl h hfind hgives
  exact hholds

/-- What the command line says about the output mode. -/
def outputOnCommandLine (gs : List Given) : Option (OutputMode → Prop) :=
  (wordFor? "output" gs).map fun word mode => mode.name = word

/-- What the command line says about the level of logging, if anything: how often the flag is given,
up to what fits a byte. -/
def debugOnCommandLine (gs : List Given) : Option (Nat → Prop) :=
  match timesGiven "debug" gs with
  | 0 => none
  | times => some fun level => level = min times 255

theorem firstOf_output (h : Holds (command catalog) gs found.values) {config : Config}
    {outputs : List (Option (OutputMode → Prop))}
    (houtput : FirstOf .default outputs config.output) :
    FirstOf .default (outputOnCommandLine gs :: outputs)
      (Settings.resolve config found).output := by
  refine houtput.getD ?_
  have hmem : globalArgs[1] ∈ (command catalog).args := List.getElem_mem _
  rcases h.word_cases (ids_command catalog) hmem rfl rfl (keeps_oneOf _) with
    ⟨word, hword, htext, hread⟩ | ⟨-, hword, htext⟩
  · obtain ⟨mode, -, hname⟩ := List.mem_map.1 (mem_of_read_oneOf hread)
    have htext : found.text? "output" = some word := htext
    rw [htext]
    exact Or.inr ⟨word, mode, hword, hname, OutputMode.ofName?_eq_some_iff.2 hname⟩
  · have htext : found.text? "output" = none := htext
    rw [htext]
    exact Or.inl ⟨hword, rfl⟩

theorem firstOf_debug (h : Holds (command catalog) gs found.values) {config : Config}
    {debugs : List (Option (Nat → Prop))} (hdebug : FirstOf 0 debugs config.debug) :
    FirstOf 0 (debugOnCommandLine gs :: debugs) (Settings.resolve config found).debug := by
  have hmem : globalArgs[0] ∈ (command catalog).args := List.getElem_mem _
  have hcount : found.count "debug" = min (timesGiven "debug" gs) 255 :=
    h.count _ hmem ⟨"debug", 'd', rfl⟩
  unfold debugOnCommandLine Settings.resolve
  cases htimes : timesGiven "debug" gs with
  | zero =>
    rw [htimes] at hcount
    rw [hcount]
    exact .silent hdebug
  | succ times =>
    obtain ⟨n, hn⟩ : ∃ n, min (times + 1) 255 = n + 1 := ⟨min times 254, by omega⟩
    rw [htimes, hn] at hcount
    rw [hcount]
    exact .first hn.symm

/--
**Each setting comes from the first source that says something about it.**

Let the command line be accepted. The configuration fails to load for the first of some reasons
about the file and the environment, and for no other; the run then ends with it, whatever the
command line says. Else the output mode is the one that the command line names, or the environment,
or the file, or the default; the level of logging is how often the command line asks for more, up to
255, or what the environment says, or the file, or zero; and which log messages are shown is what
the environment says, or the file, or nothing. The environment says what its variables are set to,
where these are texts.
-/
theorem settings_firstOf (h : (command catalog).parse words = .ok found) (env : Environment)
    (files : Files) (path : Option String) :
    (∀ error, Config.load env files path = .error error ↔ Config.Fails env files path error)
      ∧ (∀ error, Config.Fails env files (Config.path? env files) error →
        processWith catalog ⟨env, files⟩ words = fail "" ⟨[], .config error⟩ [])
      ∧ (∃ gs, Leads catalog words gs)
      ∧ ∀ gs, Leads catalog words gs → ∀ config, Config.load env files path = .ok config →
        let settings := Settings.resolve config found
        ∃ file, Config.Stands files path file
          ∧ FirstOf .default [outputOnCommandLine gs, Config.outputInEnvironment env,
            Config.outputInFile file] settings.output
          ∧ FirstOf 0 [debugOnCommandLine gs, Config.debugInEnvironment env,
            Config.debugInFile file] settings.debug
          ∧ FirstOf none [Config.logInEnvironment env, Config.logInFile file] settings.log := by
  refine ⟨fun error => Config.load_eq_error_iff, fun error hfails => ?_, exists_leads h,
    fun gs hgs config hload => ?_⟩
  · have hload : loadConfig ⟨env, files⟩ = .error error := hfails.load_eq
    rw [processWith, h]
    dsimp only
    rw [finish, hload]
  · rcases Config.fails_or_load env files path with ⟨error, hfails⟩ |
      ⟨config', file, hload', hstands, houtput, hdebug, hlog⟩
    · rw [hfails.load_eq] at hload
      cases hload
    · rw [hload] at hload'
      cases hload'
      have hholds := hgs.holds h
      exact ⟨file, hstands, firstOf_output hholds houtput, firstOf_debug hholds hdebug, hlog⟩

/-- A file that only sets which log messages are shown. -/
def quietFiles : Files :=
  (Files.emptyAt []).withFile "devgroup.toml" ("log = 'info'".toList.map fun c => .ofNat c.toNat)

/-- An environment with a variable that is set to what is no text. -/
def mixedEnvironment : Environment :=
  [("DEVGROUP_DEBUG", .text "+7"), ("DEVGROUP_LOG", .bytes [0xFF] rfl),
    ("DEVGROUP_OUTPUT", .text "JSON")]

theorem load_quietFiles :
    Config.load mixedEnvironment quietFiles (some "devgroup.toml")
      = .ok ⟨.json, 7, some "info"⟩ := rfl

/-- The flags go before the environment, and the file is asked where neither says anything. -/
theorem settings_firstOf_twice :
    let catalog : Catalog := ⟨[GenericDevice.group.toAny, Plug.group.toAny]⟩
    let words := ["-dd", "--output", "json_pretty", "plug", "--ip", "10.0.0.5",
      "--token=00112233445566778899aabbccddeeff", "led", "OFF"]
    let found : Matches :=
      ⟨[("debug", .count 2), ("output", .text "json_pretty")],
        [("plug", [("ip", .text "10.0.0.5"), ("token", .text "00112233445566778899aabbccddeeff")]),
          ("led", [("state", .text "off")])]⟩
    let settings := Settings.resolve ⟨.json, 7, some "info"⟩ found
    (command catalog).parse words = .ok found
      ∧ settings.debug = 2 ∧ settings.output = .jsonPretty
      ∧ ∃ file, Config.Stands quietFiles (some "devgroup.toml") file
        ∧ FirstOf none [none, Config.logInFile file] settings.log := by
  intro catalog words found settings
  have hcatalog : Catalog.standard = .ok catalog := standard_eq
  have hsubcommands : (command catalog).subcommands
      = [GenericDevice.group.toCommand, Plug.group.toCommand] := commands_standard hcatalog
  have hparse : (command catalog).parse words = .ok found := by
    rw [command, commands_standard hcatalog]
    rfl
  have hfree {text : String} (htext : text.toList.head? = some '-') :
      (command catalog).IsFree text := by
    refine Command.isFree_of_dash (fun sub hsub => ?_) htext
    rw [hsubcommands] at hsub
    revert sub
    decide
  have hlong : IsLong "--output" "output" none := ⟨rfl, by decide, by decide⟩
  have hdash : ¬ IsDashed "json_pretty" := not_isDashed_of_head? (by decide)
  have hletters : Item (command catalog) 0 ["-dd"] _ 0 :=
    .letters (hfree rfl) rfl (by decide) (.cons rfl (.cons rfl .nil))
  have hvalued : Item (command catalog) 0 ["--output", "json_pretty"] _ 0 :=
    .valued (hfree rfl) hlong rfl rfl hdash
  have hgives := Gives.item hletters (.item hvalued .nil)
  have hleads : Leads catalog words _ :=
    ⟨["-dd", "--output", "json_pretty"], "plug", _, Plug.group.toCommand, rfl, by
      rw [Command.find?, hsubcommands]
      rfl, hgives⟩
  obtain ⟨-, -, -, hfirst⟩ :=
    settings_firstOf hparse mixedEnvironment quietFiles (some "devgroup.toml")
  obtain ⟨file, hstands, houtput, hdebug, hlog⟩ := hfirst _ hleads _ load_quietFiles
  refine ⟨hparse, ?_, ?_, file, hstands, hlog⟩
  · cases hdebug with
    | first hdebug => exact hdebug
  · cases houtput with
    | first houtput =>
      have hmode : OutputMode.ofName? "json_pretty" = some settings.output :=
        OutputMode.ofName?_eq_some_iff.2 houtput
      exact (Option.some.inj hmode).symm

end App

/-! ## Texts and letters -/

namespace Config

/-- The upper case of a letter, if that is an English letter; other characters stay. -/
def upperCase (c : Char) : Char :=
  if c = 'ı' then 'I' else if c = 'ſ' then 'S' else c.toUpper

/-- The file is not sound, or a variable is set to what it should not be set to: to anything but a
mode's name in some case of its letters, or to anything but a level. -/
def IsFaulty (env : Environment) (files : Files) (path : Option String) : Prop :=
  ¬ IsSound files path
    ∨ (∃ value, Entries.get? outputVariable env = some value
      ∧ ∀ word, value = .text word → ∀ mode : OutputMode,
        word.toList.map upperCase ≠ mode.name.toList.map upperCase)
    ∨ ∃ value, Entries.get? debugVariable env = some value
      ∧ ∀ word, value = .text word → ∀ level, ¬ DenotesLevel word level

/-- No variable of this environment is set to a text. -/
def wordlessEnvironment : Environment :=
  [(debugVariable, .bytes [0xFF] rfl), (logVariable, .bytes [0xFF] rfl),
    (outputVariable, .bytes [0xFF] rfl)]

/-- **What is faulty may be loaded, and what is not may be refused**: bytes that are no text are
passed over, and the long s is no letter that the name of a mode may have, though its upper case is
that of an s. -/
theorem load_eq_error_not_iff_isFaulty :
    (IsFaulty wordlessEnvironment (Files.emptyAt []) none
      ∧ load wordlessEnvironment (Files.emptyAt []) none = .ok initial)
      ∧ ¬ IsFaulty [(outputVariable, .text "jſon")] (Files.emptyAt []) none
      ∧ load [(outputVariable, .text "jſon")] (Files.emptyAt []) none
        = .error (.invalidEnv outputVariable "jſon") := by
  refine ⟨⟨Or.inr (Or.inl ⟨_, rfl, nofun⟩), rfl⟩, ?_, rfl⟩
  rintro (hsound | ⟨value, hget, hnot⟩ | ⟨value, hget, -⟩)
  · exact hsound nofun
  · cases hget
    exact hnot "jſon" rfl .json (by decide)
  · cases hget

end Config

end Switchboard
