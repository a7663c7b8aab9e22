import Switchboard.Descriptor

/-!
# Registries

The commands of a device type by name. A registry takes over the commands of the types that its own
type embeds, and registers commands of its own. Each of these replaces a whole command of the same
name, so the last one wins.
-/

namespace Switchboard

/-- The commands of device type `δ`. -/
structure Registry (δ : Type) where
  commands : Entries (Descriptor δ)

namespace Registry

variable {δ β : Type}

/-- No commands. -/
def empty : Registry δ := ⟨[]⟩

/-- The command of a name. -/
def get? (name : String) (r : Registry δ) : Option (Descriptor δ) := Entries.get? name r.commands

/-- Whether there is a command of a name. -/
def contains (name : String) (r : Registry δ) : Bool := (r.get? name).isSome

/-- The names of the commands, in order. -/
def names (r : Registry δ) : List String := Entries.names r.commands

/-- How many commands there are. -/
def size (r : Registry δ) : Nat := r.commands.length

/-- Adds a command. -/
def register (r : Registry δ) (d : Descriptor δ) : Registry δ :=
  ⟨Entries.insert d.name d r.commands⟩

/-- Takes over the commands of an embedded type. -/
def inherit (r : Registry δ) (e : Embedding δ β) (base : Registry β) : Registry δ :=
  ⟨base.commands.foldl (fun commands entry => Entries.insert entry.1 (entry.2.lift e) commands)
    r.commands⟩

/-- A registry shown for inspection. -/
def inspect (r : Registry δ) : List Char :=
  Text.inspectRecord "CommandRegistry"
    [("commands", Text.inspectList (r.names.map Text.quoted))]

end Registry

end Switchboard
