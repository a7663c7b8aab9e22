import Switchboard.Group

/-!
# Catalogs

Groups of different device types side by side. A catalog sees of a group only what does not name its
device type. No two groups have one name.
-/

namespace Switchboard

/-- A group, seen without its device type. -/
structure AnyGroup where
  name : String
  commands : List String
  supportedModels : List String
  command : CommandLine.Command
  /-- Runs what was found on the command line; the device is not shown afterwards. -/
  dispatch : Context → CommandLine.Matches → Call Unit

/-- A group without its device type. -/
def Group.toAny {δ : Type} (g : Group δ) : AnyGroup where
  name := g.name
  commands := g.registry.names
  supportedModels := g.type.supportedModels
  command := g.toCommand
  dispatch context found := { g.dispatch context found with device := () }

/-- Groups in the order of their registration. -/
structure Catalog where
  groups : List AnyGroup

namespace Catalog

/-- No groups. -/
def empty : Catalog := ⟨[]⟩

/-- The group of a name. -/
def get? (name : String) (c : Catalog) : Option AnyGroup := c.groups.find? (·.name = name)

/-- The names of the groups, in order. -/
def names (c : Catalog) : List String := (c.groups.map AnyGroup.name).mergeSort (· ≤ ·)

/-- How many groups there are. -/
def size (c : Catalog) : Nat := c.groups.length

/-- Adds the group of a device type. -/
def register {δ : Type} (type : DeviceType δ) (c : Catalog) : Except WiringError Catalog :=
  (Group.ofType type).bind fun g =>
    if (c.get? g.name).isSome then .error (.duplicateGroup g.name)
    else .ok ⟨c.groups ++ [g.toAny]⟩

/-- The groups on the command line, in the order of their names. -/
def commands (c : Catalog) : List CommandLine.Command :=
  (c.names.filterMap fun name => c.get? name).map AnyGroup.command

end Catalog

end Switchboard
