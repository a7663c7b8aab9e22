import Switchboard.Decimal
import Switchboard.Text.LowerCase

/-!
# Log levels

How important messages must be to be shown. A level is written by its name in any case, or by its
place among the levels.
-/

namespace Switchboard

/-- How important a log message must be to be shown. -/
inductive LogLevel where
  | off
  | error
  | warn
  | info
  | debug
  | trace
  deriving DecidableEq, Repr

namespace LogLevel

/-- The name of a level. -/
def name : LogLevel → String
  | off => "off"
  | error => "error"
  | warn => "warn"
  | info => "info"
  | debug => "debug"
  | trace => "trace"

/-- The levels, from the fewest messages to the most. -/
def all : List LogLevel := [off, error, warn, info, debug, trace]

/-- The level of a name in any case, or of its place among the levels. -/
def ofText? (s : List Char) : Option LogLevel :=
  match Decimal.integer 0 Decimal.greatestNat64 s with
  | .ok n => all[n.toNat]?
  | .error _ => all.find? fun level => Text.eqIgnoringAsciiCase level.name.toList s

/-- The level after an equals sign, where none means all messages. -/
def ofEnd? (s : List Char) : Option LogLevel := if s.isEmpty then some trace else ofText? s

end LogLevel

end Switchboard
