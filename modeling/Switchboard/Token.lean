import Switchboard.Error

/-!
# Tokens

The secret that a device is addressed with. Only its length is known: thirty-two characters.
-/

namespace Switchboard.Token

/-- How many characters a token has. -/
def size : Nat := 32

/-- Reads a token. -/
def parse (value : String) : Except UsageError String :=
  if value.length = size then .ok value
  else .error (.invalidToken size value.length)

end Switchboard.Token
