import Switchboard.Error
import Switchboard.Text.LowerCase

/-!
# Choices

A value out of a list of spellings, found up to the case of ASCII letters and kept in the spelling
of the list. A value that is not found is answered with the list: in lower case, sorted, each
spelling once.
-/

namespace Switchboard.Choice

/-- Drops each text that the one after it repeats. -/
def dropRepeats : List String → List String
  | [] => []
  | [s] => [s]
  | s :: next :: rest =>
    if s = next then dropRepeats (next :: rest) else s :: dropRepeats (next :: rest)

/-- The choices as they are shown. -/
def shown (choices : List String) : List String :=
  dropRepeats ((choices.map Text.lowerString).mergeSort (· ≤ ·))

/-- Finds a value among the choices. -/
def parse (choices : List String) (value : String) : Except UsageError String :=
  match choices.find? fun choice => Text.eqIgnoringAsciiCase choice.toList value.toList with
  | some choice => .ok choice
  | none => .error (.invalidChoice value (shown choices))

end Switchboard.Choice
