import Switchboard.Device.Catalog
import Switchboard.LogFilter
import Switchboard.Report

/-!
# The application

A run of the program, from its arguments to its exit. The command line is read first and ends the
run if it is not accepted; then the configuration is loaded; then the settings are those of the
command line where it has them, else those of the configuration; then the command runs.
-/

namespace Switchboard

/-- What a run depends on besides its arguments. -/
structure World where
  env : Environment
  files : Files

/-- Settings of a run. -/
structure Settings where
  debug : Nat
  output : OutputMode
  log : Option String
  deriving DecidableEq, Repr

namespace Settings

/-- The settings when there is no configuration. -/
def initial : Settings := ⟨Config.initial.debug, Config.initial.output, Config.initial.log⟩

/-- The settings of the command line in front of those of the configuration. -/
def resolve (config : Config) (found : CommandLine.Matches) : Settings where
  debug :=
    match found.count "debug" with
    | 0 => config.debug
    | n => n
  output := ((found.text? "output").bind OutputMode.ofName?).getD config.output
  log := config.log

/-- Which log messages a level of logging shows. -/
def levelFor (debug : Nat) : LogLevel :=
  match debug with
  | 0 => .warn
  | 1 => .info
  | 2 => .debug
  | _ => .trace

/-- Which log messages are shown if the environment has no filter of its own. A filter that is
malformed does not count. -/
def logFilter (s : Settings) : String :=
  (s.log.bind LogFilter.normalize?).getD (levelFor s.debug).name

/-- The variable with the environment's own filter. -/
def filterVariable : String := "RUST_LOG"

/-- Which log messages are shown in an environment: its own filter goes before that of the settings,
unless it is malformed. -/
def logFilterIn (env : Environment) (s : Settings) : String :=
  ((env.text? filterVariable).bind LogFilter.normalize?).getD s.logFilter

/-- The output strategy that goes before those of the commands. -/
def outputOverride (s : Settings) : Option Output :=
  match s.output with
  | .default => none
  | .json => some (.json false)
  | .jsonPretty => some (.json true)

/-- The context that commands run in. -/
def context (s : Settings) : Context := ⟨s.debug, s.outputOverride⟩

end Settings

namespace App

/-- The name of the program. -/
def name : String := "devgroup"

/-- The version of the program. -/
def version : String := "0.3.0"

/-- The arguments that stand before the group. -/
def globalArgs : List CommandLine.Arg :=
  [⟨"debug", some "Increase log verbosity, repeat for more", false, none, .count "debug" 'd'⟩,
    ⟨"output", some "Result format [default: default]", false, none,
      .option "output" (.oneOf (OutputMode.all.map OutputMode.name))⟩]

/-- The program on the command line, with one subcommand for each group. -/
def command (catalog : Catalog) : CommandLine.Command where
  name := name
  about := some "Control devices from the command line"
  afterHelp := none
  hidden := false
  hasVersion := true
  args := globalArgs
  subcommands := catalog.commands
  needsSubcommand := true
  takesAnySubcommand := false

/-- What a run printed, and why it failed if it did. -/
structure Run where
  printed : String
  failure : Option Failure

/-- What was being done when a command failed. -/
def commandContext (group : String) (found : CommandLine.Matches) : String :=
  let command := (found.subcommand?.map (·.1)).getD ""
  "Command '" ++ group ++ " " ++ command ++ "' failed"

/-- Runs what was found on the command line. -/
def run (catalog : Catalog) (found : CommandLine.Matches) (settings : Settings) : Run :=
  match found.subcommand? with
  | none => ⟨"", some ⟨[], .plain "No device group given"⟩⟩
  | some (groupName, below) =>
    match catalog.get? groupName with
    | none => ⟨"", some ⟨[], .dispatch (.usage (.unknownCommand groupName))⟩⟩
    | some group =>
      let call := group.dispatch settings.context below
      let failure :=
        match call.result with
        | .ok _ => none
        | .error error => some ⟨[commandContext groupName below], .dispatch error⟩
      ⟨Event.printed call.events, failure⟩

/-- The commands that could have been given where a command was looked for. -/
def validCommands (catalog : Catalog) (found : CommandLine.Matches) : List String :=
  match found.subcommand?.bind fun (group, _) => catalog.get? group with
  | some group => group.commands
  | none => catalog.names

/-- Loads the configuration of a world. -/
def loadConfig (world : World) : Except ConfigError Config :=
  Config.load world.env world.files (Config.path? world.env world.files)

/-- Why a run ends. -/
inductive Ending where
  /-- The command succeeded. -/
  | success
  /-- The command line asks for help or for the version, or is not accepted. -/
  | stopped (fault : CommandLine.Fault)
  /-- The run failed. -/
  | failed (error : RunError) (report : Report)

/-- How a run ended. The help texts are not among what it printed. -/
structure Exit where
  printed : String
  ending : Ending

/-- The exit code of a run. -/
def Ending.code : Ending → Nat
  | success => 0
  | stopped fault => fault.exitCode
  | failed _ report => report.exitCode

/-- The end of a run by its command line. -/
def stop (fault : CommandLine.Fault) : Exit :=
  ⟨if fault = .displayVersion then name ++ " " ++ version ++ "\n" else "", .stopped fault⟩

/-- The end of a run by a failure. -/
def fail (printed : String) (failure : Failure) (commands : List String) : Exit :=
  ⟨printed, .failed failure.error (.ofFailure failure commands)⟩

/-- The end of a run whose command line was accepted. -/
def finish (catalog : Catalog) (world : World) (found : CommandLine.Matches) : Exit :=
  match loadConfig world with
  | .error error => fail "" ⟨[], .config error⟩ []
  | .ok config =>
    let run := run catalog found (.resolve config found)
    match run.failure with
    | none => ⟨run.printed, .success⟩
    | some failure => fail run.printed failure (validCommands catalog found)

/-- Runs the program with the groups of a catalog. -/
def processWith (catalog : Catalog) (world : World) (words : List String) : Exit :=
  match (command catalog).parse words with
  | .error fault => stop fault
  | .ok found => finish catalog world found

/-- How the program is called. -/
def usage : String := "Usage: " ++ name ++ " [OPTIONS] <COMMAND>"

/-- Whether a variable of the environment says yes, if it is set to a text. -/
def switch? (variableName : String) (env : Environment) : Option Bool :=
  (env.text? variableName).map (· != "0")

/-- Whether colors are shown: a demand for them goes before a refusal, and a refusal before the
question whether there is a terminal. -/
def usesColors (env : Environment) (isTerminal : Bool) : Bool :=
  if switch? "CLICOLOR_FORCE" env = some true then true
  else if (switch? "NO_COLOR" env).isSome then false
  else (switch? "CLICOLOR" env).getD true && isTerminal

/-- The variables of the environment that make a difference. -/
def variableNames : List String :=
  [Config.pathVariable, Config.outputVariable, Config.debugVariable, Config.logVariable,
    Settings.filterVariable, "XDG_CONFIG_HOME", "HOME", "CLICOLOR_FORCE", "NO_COLOR", "CLICOLOR"]

/-- The paths that make a difference: those that a configuration may be read from, and those on the
way there. -/
def paths (env : Environment) : List String :=
  ((env.text? Config.pathVariable).toList ++ Config.usualPaths env).flatMap
    Files.beginnings

/-- Runs the program. -/
def process (world : World) (words : List String) : Exit :=
  match Catalog.standard with
  | .error error => fail "" ⟨[], .plain error.message⟩ []
  | .ok catalog => processWith catalog world words

end App

end Switchboard
