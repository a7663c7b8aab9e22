import Switchboard.Device.Plug
import Switchboard.Group
import Switchboard.Rehearsal.Device

/-!
# The bench

The three scripted device types with the registries that are being built for them and those that
have been published, and the plan by which information is fetched. A type whose registry has not
been published is not wired.
-/

namespace Switchboard.Rehearsal

/-- The scripted device types. -/
inductive Level where
  | root
  | mid
  | leaf
  deriving DecidableEq, Repr

namespace Level

/-- The devices of a type. -/
def Device : Level → Type
  | root => Root
  | mid => Mid
  | leaf => Leaf

/-- The name of a type in notes. -/
def label : Level → String
  | root => "root"
  | mid => "mid"
  | leaf => "leaf"

/-- The innermost part of a device. -/
def toRoot : (l : Level) → Embedding l.Device Root
  | root => ⟨id, fun r _ => r, fun _ _ => rfl, fun _ => rfl, fun _ _ _ => rfl⟩
  | mid => Mid.toRoot
  | leaf => Leaf.toMid.trans Mid.toRoot

/-- A device around its innermost part. -/
def ofRoot (r : Root) : (l : Level) → l.Device
  | root => r
  | mid => (⟨r⟩ : Mid)
  | leaf => (⟨⟨r⟩⟩ : Leaf)

/-- The part of one type in another, where it has one. -/
def embedding? : (whole part : Level) → Option (Embedding whole.Device part.Device)
  | mid, root => some Mid.toRoot
  | leaf, root => some (Leaf.toMid.trans Mid.toRoot)
  | leaf, mid => some Leaf.toMid
  | _, _ => none

end Level

/-- The bench. -/
structure Bench where
  /-- The full names of the types. -/
  typeName : Level → String
  plan : FetchPlan
  building : (l : Level) → Registry l.Device
  published : (l : Level) → Option (Registry l.Device)

namespace Bench

/-- A bench on which nothing has been built. -/
def start (typeName : Level → String) (plan : FetchPlan) : Bench :=
  ⟨typeName, plan, fun _ => .empty, fun _ => none⟩

/-- Replaces the value of a dependent function at one level. -/
def update {α : Level → Type} (f : (l : Level) → α l) (l : Level) (a : α l) : (l : Level) → α l :=
  fun l' => if h : l = l' then h ▸ a else f l'

/-- The device type of a level. -/
def deviceType (b : Bench) (l : Level) : DeviceType l.Device where
  typeName := b.typeName l
  groupName := DeviceType.groupNameOf (b.typeName l)
  about := none
  supportedModels := []
  registry := b.published l
  connect connection := Level.ofRoot (.connect connection) l
  model d := (l.toRoot.view d).model
  hasInfo d := (l.toRoot.view d).info.isSome
  fetchInfo d :=
    let fetch := (l.toRoot.view d).fetchInfo b.plan
    ⟨l.toRoot.put fetch.device d, fetch.events, fetch.result⟩

/-- Replaces the registry that is being built for a type. -/
def setBuilding (b : Bench) (l : Level) (r : Registry l.Device) : Bench :=
  { b with building := update b.building l r }

/-- A command declared on a type. -/
def descriptor (l : Level) (name : String) (script : Script) (declarations : List Declaration) :
    Descriptor l.Device :=
  .build name (l.toRoot.lift (script.method l.label)) declarations

/-- Registers a command. -/
def register (b : Bench) (l : Level) (d : Descriptor l.Device) : Bench :=
  b.setBuilding l ((b.building l).register d)

/-- Takes over the commands being built for another type, if it is a part. -/
def inherit (b : Bench) (whole part : Level) : Bench :=
  match whole.embedding? part with
  | some e => b.setBuilding whole ((b.building whole).inherit e (b.building part))
  | none => b

/-- Takes over the published commands of another type, if it is a part. -/
def inheritFrom (b : Bench) (whole part : Level) : Except WiringError Bench :=
  match whole.embedding? part with
  | some e => ((b.building whole).inheritFrom e (b.deviceType part)).map (b.setBuilding whole)
  | none => .ok b

/-- Publishes the registry that is being built for a type, and starts an empty one. -/
def publish (b : Bench) (l : Level) : Bench :=
  { b.setBuilding l .empty with published := update b.published l (some (b.building l)) }

end Bench

/-- A device type without any device worth the name. -/
def blankType (typeName groupName : String) (registry : Option (Registry Unit)) :
    DeviceType Unit where
  typeName
  groupName
  about := none
  supportedModels := []
  registry
  connect _ := ()
  model _ := none
  hasInfo _ := false
  fetchInfo _ := ⟨(), [], .ok ()⟩

/-- Nothing is a part of everything. -/
def nothingIn (δ : Type) : Embedding δ Unit :=
  ⟨fun _ => (), fun _ whole => whole, fun _ _ => rfl, fun _ => rfl, fun _ _ _ => rfl⟩

/-- A session on a device of any type. -/
inductive AnySession where
  | scripted (level : Level) (session : Session level.Device)
  | generic (session : Session GenericDevice)
  | plug (session : Session Plug)

/-- The session with information fetched by the plan of a bench from now on. -/
def AnySession.refresh (b : Bench) : AnySession → AnySession
  | scripted level session =>
    .scripted level { session with group.type := b.deviceType level }
  | session => session

end Switchboard.Rehearsal
