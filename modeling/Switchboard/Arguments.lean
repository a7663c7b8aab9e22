import Switchboard.Error

/-!
# Arguments of a call

Keyword arguments, in the order of their names. An argument that is null counts as not given.
-/

namespace Switchboard

/-- The keyword arguments of a call. -/
abbrev Arguments := Entries Json

namespace Arguments

/-- An argument that is given. -/
def given? (name : String) (arguments : Arguments) : Option Json :=
  (Entries.get? name arguments).filter (!·.isNull)

/-- An argument that must be given. -/
def require (name : String) (arguments : Arguments) : Except UsageError Json :=
  match given? name arguments with
  | some v => .ok v
  | none => .error (.missingArgument name)

/-- An argument that must be given and be a text; any other value counts as not given. -/
def requireText (name : String) (arguments : Arguments) : Except UsageError String :=
  match (given? name arguments).bind Json.asString? with
  | some s => .ok s
  | none => .error (.missingArgument name)

end Arguments

end Switchboard
