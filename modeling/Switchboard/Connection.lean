import Switchboard.Address
import Switchboard.Token

/-!
# Connections

What identifies one device for one invocation.
-/

namespace Switchboard

/-- The parameters of a connection. -/
structure Connection where
  address : String
  token : String
  /-- The model, when it is known beforehand. -/
  model : Option String
  /-- How much the device logs. -/
  debug : Nat
  deriving DecidableEq, Repr

/-- Checks the address, then the token. -/
def Connection.validate (c : Connection) : Except UsageError Unit := do
  let _ ← Address.parse c.address
  let _ ← Token.parse c.token

end Switchboard
