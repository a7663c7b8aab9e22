import Switchboard.Catalog
import Switchboard.Device.Plug

/-!
# The catalog of the program

Every device group that the program knows.
-/

namespace Switchboard

/-- Generic devices and plugs. -/
def Catalog.standard : Except WiringError Catalog :=
  (Catalog.empty.register GenericDevice.type).bind fun c => c.register Plug.type

end Switchboard
