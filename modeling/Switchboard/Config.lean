import Switchboard.Environment
import Switchboard.Files
import Switchboard.Text.LowerCase
import Switchboard.Toml.Document

/-!
# Configuration

The settings that stand in a file and in the environment. The file is the one that the environment
names, else the first of the usual places where there is one. What the environment says goes before
what the file says, each setting by itself. All of them are checked, also those that something else
will go before. A variable that is set to what is no text is passed over.
-/

namespace Switchboard

/-- How results are shown. -/
inductive OutputMode where
  | default
  | json
  | jsonPretty
  deriving DecidableEq, Repr

namespace OutputMode

/-- The name of a mode. -/
def name : OutputMode → String
  | default => "default"
  | json => "json"
  | jsonPretty => "json_pretty"

/-- All modes. -/
def all : List OutputMode := [default, json, jsonPretty]

/-- The mode of a name. -/
def ofName? (s : String) : Option OutputMode := all.find? (·.name = s)

/-- The mode of a name in any case. -/
def ofNameInAnyCase? (s : String) : Option OutputMode :=
  all.find? fun mode => Text.eqIgnoringAsciiCase mode.name.toList s.toList

end OutputMode

/-- The settings of the configuration. -/
structure Config where
  output : OutputMode
  /-- How much is logged. -/
  debug : Nat
  /-- Which log messages are shown. -/
  log : Option String
  deriving DecidableEq, Repr

/-- Why the configuration cannot be loaded. -/
inductive ConfigError where
  | read (path reason : String)
  | parse (path : String)
  | invalidEnv (name value : String)
  deriving DecidableEq, Repr

namespace ConfigError

/-- The message of an error. -/
def message : ConfigError → String
  | read path reason => "Failed to read config file '" ++ path ++ "': " ++ reason
  | parse path => "Failed to parse config file '" ++ path ++ "'"
  | invalidEnv name value => "Invalid value '" ++ value ++ "' for " ++ name

/-- The messages of the errors beneath an error. -/
def causes : ConfigError → List String
  | read _ reason => [reason]
  | parse _ => ["not a valid configuration"]
  | invalidEnv .. => []

end ConfigError

namespace Config

/-- The settings when nothing else is said. -/
def initial : Config := ⟨.default, 0, none⟩

/-- The greatest level of logging. -/
def greatestDebug : Nat := 255

/-! ## Settings in a file -/

/-- Whether a value holds nothing. -/
def isNothing : Toml → Bool
  | .array items => items.isEmpty
  | .table _ members => members.isEmpty
  | _ => false

/-- The mode that a value names: a text, or a table whose only key holds nothing. -/
def outputOf? : Toml → Option OutputMode
  | .string s => OutputMode.ofName? s
  | .table _ [(key, value)] => if isNothing value then OutputMode.ofName? key else none
  | _ => none

/-- The level of logging that a value is. -/
def debugOf? : Toml → Option Nat
  | .integer n => if 0 ≤ n ∧ n ≤ greatestDebug then some n.toNat else none
  | _ => none

/-- The text that a value is. -/
def textOf? : Toml → Option String
  | .string s => some s
  | _ => none

/-- The setting under a key of a file, if the key is there; a value that is none is an error. -/
def setting? {α : Type} (read : Toml → Option α) (key : String) (members : Toml.Members) :
    Option (Option α) :=
  match Toml.find? key members with
  | none => some none
  | some value => (read value).map some

/-- The settings in the table of a file; other keys do not count. -/
def ofTable? (members : Toml.Members) : Option Config := do
  let output ← setting? outputOf? "output" members
  let debug ← setting? debugOf? "debug" members
  let log ← setting? textOf? "log" members
  return ⟨output.getD initial.output, debug.getD initial.debug, log⟩

/-- The settings in a text. -/
def ofText? (text : String) : Option Config := (Toml.parse? text).bind ofTable?

/-- The settings in a file. -/
def ofFile (files : Files) (path : String) : Except ConfigError Config :=
  match files.readText path with
  | .error fault => .error (.read path fault.message)
  | .ok text =>
    match ofText? text with
    | some config => .ok config
    | none => .error (.parse path)

/-! ## Settings in the environment -/

/-- The variable that names the file. -/
def pathVariable : String := "DEVGROUP_CONFIG"

/-- The variable that sets the output mode. -/
def outputVariable : String := "DEVGROUP_OUTPUT"

/-- The variable that sets the level of logging. -/
def debugVariable : String := "DEVGROUP_DEBUG"

/-- The variable that sets which log messages are shown. -/
def logVariable : String := "DEVGROUP_LOG"

/-- The setting in a variable, if it is set to a text; a text that is none is an error. -/
def environmentSetting? {α : Type} (env : Environment) (name : String) (read : String → Option α) :
    Except ConfigError (Option α) :=
  match env.text? name with
  | none => .ok none
  | some word =>
    match read word with
    | some a => .ok (some a)
    | none => .error (.invalidEnv name word)

/-- A level of logging, as digits after an optional plus sign. -/
def debugOfText? (s : String) : Option Nat :=
  match Decimal.integer 0 greatestDebug s.toList with
  | .ok n => some n.toNat
  | .error _ => none

/-- The settings with those of the environment in front of them. -/
def mergeEnvironment (env : Environment) (config : Config) : Except ConfigError Config := do
  let output ← environmentSetting? env outputVariable OutputMode.ofNameInAnyCase?
  let debug ← environmentSetting? env debugVariable debugOfText?
  return {
    output := output.getD config.output
    debug := debug.getD config.debug
    log := (env.text? logVariable).or config.log }

/-! ## Loading -/

/-- The file in the current directory. -/
def localPath : String := "devgroup.toml"

/-- Whether what a variable is set to is a path that does not depend on the current directory. -/
def isAbsolute : Environment.Value → Bool
  | .text path => Files.isAbsolute path
  | .bytes path _ => path.head? == some '/'.toUInt8

/-- The directory for the configurations of the user: the one that the environment names by an
absolute path, else the usual one below the user's own directory. Files stand under paths that are
texts, so that there are none in a directory that has another path. -/
def userDirectory? (env : Environment) : Option String :=
  match (Entries.get? "XDG_CONFIG_HOME" env).filter isAbsolute with
  | some named => named.text?
  | none => ((env.text? "HOME").filter (!·.isEmpty)).map (Files.join · ".config")

/-- The file in a directory for configurations. -/
def userPath (directory : String) : String :=
  Files.join (Files.join directory "devgroup") "config.toml"

/-- The usual places of the file, the first ones going before the later ones. -/
def usualPaths (env : Environment) : List String :=
  localPath :: (userDirectory? env).toList.map userPath

/-- The path of the file that will be read, if any: the one that the environment names, else the
first of the usual ones that there is. -/
def path? (env : Environment) (files : Files) : Option String :=
  match env.text? pathVariable with
  | some path => some path
  | none => (usualPaths env).find? files.exists?

/-- Loads the configuration from a file, if there is one, and the environment. -/
def load (env : Environment) (files : Files) (path : Option String) : Except ConfigError Config :=
  match path with
  | some path => (ofFile files path).bind (mergeEnvironment env)
  | none => mergeEnvironment env initial

end Config

end Switchboard
