import Switchboard.Device.Plug

/-!
# How registries are merged

A registry comes about by operations: a command is registered, or the commands of an embedded type
are taken over, whose registry has come about in the same way. An `Assembly` is such a history, down
to the types that embed nothing.

A registry that is taken over is visited entry by entry, in an order that nobody has promised.
`Builds` lets every visit choose its order. `Builds.merges` says that no choice makes a difference,
and what the registry holds in the end: under each name the whole command of the last operation that
supplies one.
-/

namespace Switchboard

variable {δ β : Type}

/-! ## Coherent registries -/

namespace Registry

/-- The commands are in order, each under its own name. -/
structure Coherent (r : Registry δ) : Prop where
  sorted : r.commands.Sorted
  name_eq : ∀ entry ∈ r.commands, entry.2.name = entry.1

theorem coherent_empty : (empty : Registry δ).Coherent :=
  ⟨List.Pairwise.nil, List.forall_mem_nil _⟩

theorem Coherent.register {r : Registry δ} (h : r.Coherent) (d : Descriptor δ) :
    (r.register d).Coherent where
  sorted := h.sorted.insert d.name d
  name_eq := by
    intro entry hmem
    rcases Entries.mem_insert hmem with rfl | hmem
    · rfl
    · exact h.name_eq entry hmem

/-- Lifting keeps the names, so what is taken over stands under its own name as before. -/
theorem Coherent.inherit {r : Registry δ} {base : Registry β} (h : r.Coherent)
    (hbase : ∀ entry ∈ base.commands, entry.2.name = entry.1) (e : Embedding δ β) :
    (r.inherit e base).Coherent where
  sorted := h.sorted.foldl_insert (Descriptor.lift e) base.commands
  name_eq := by
    intro entry hmem
    rcases Entries.mem_foldl_insert hmem with hmem | ⟨entry', hmem', rfl⟩
    · exact h.name_eq entry hmem
    · exact hbase entry' hmem'

theorem Coherent.name_of_get? {r : Registry δ} (h : r.Coherent) {name : String}
    {d : Descriptor δ} (hget : r.get? name = some d) : d.name = name :=
  h.name_eq (name, d) (Entries.mem_of_get? hget)

theorem get?_register (r : Registry δ) (d : Descriptor δ) (name : String) :
    (r.register d).get? name = if d.name = name then some d else r.get? name :=
  Entries.get?_insert r.commands d.name name d

theorem get?_inherit (r : Registry δ) (e : Embedding δ β) {base : Registry β}
    (hbase : (Entries.names base.commands).Nodup) (name : String) :
    (r.inherit e base).get? name = ((base.get? name).map (Descriptor.lift e)).or (r.get? name) :=
  Entries.get?_foldl_insert (Descriptor.lift e) hbase r.commands name

/-- **A registry may be taken over in any order.** -/
theorem inherit_perm {r : Registry δ} (hr : r.Coherent) (e : Embedding δ β) {base : Registry β}
    (hbase : base.Coherent) {order : Entries (Descriptor β)} (hperm : order.Perm base.commands) :
    r.inherit e ⟨order⟩ = r.inherit e base := by
  have hnames : (Entries.names order).Nodup := (hperm.map _).nodup_iff.2 hbase.sorted.nodup
  have hget (name : String) : (r.inherit e ⟨order⟩).get? name = (r.inherit e base).get? name := by
    have hsame : (⟨order⟩ : Registry β).get? name = base.get? name :=
      Entries.get?_perm hperm hnames name
    rw [get?_inherit r e hnames, get?_inherit r e hbase.sorted.nodup, hsame]
  have horder : (r.inherit e ⟨order⟩).commands.Sorted :=
    hr.sorted.foldl_insert (Descriptor.lift e) order
  exact congrArg Registry.mk
    (horder.ext (hr.sorted.foldl_insert (Descriptor.lift e) base.commands) hget)

end Registry

/-! ## Assemblies -/

/-- How a registry comes about, one operation after the other. -/
inductive Assembly : Type → Type 1 where
  | empty {δ : Type} : Assembly δ
  /-- A command is registered. -/
  | register {δ : Type} (before : Assembly δ) (d : Descriptor δ) : Assembly δ
  /-- The registry of an embedded type is taken over. -/
  | inherit {δ β : Type} (before : Assembly δ) (e : Embedding δ β) (base : Assembly β) : Assembly δ

/-- One operation of an assembly. -/
inductive Operation (δ : Type) : Type 1 where
  | register (d : Descriptor δ)
  | inherit {β : Type} (e : Embedding δ β) (base : Assembly β)

namespace Assembly

/-- The registry that comes about, with every registry visited in the order of its names. -/
def registry : {δ : Type} → Assembly δ → Registry δ
  | _, .empty => .empty
  | _, .register before d => before.registry.register d
  | _, .inherit before e base => before.registry.inherit e base.registry

/-- The operations on the registry itself, in their order. -/
def operations : {δ : Type} → Assembly δ → List (Operation δ)
  | _, .empty => []
  | _, .register before d => before.operations ++ [.register d]
  | _, .inherit before e base => before.operations ++ [.inherit e base]

/-- The registries that may come about, with every registry visited in any order. -/
inductive Builds : {δ : Type} → Assembly δ → Registry δ → Prop where
  | empty {δ : Type} : Builds (.empty : Assembly δ) .empty
  | register {δ : Type} {before : Assembly δ} {r : Registry δ} (d : Descriptor δ) :
      Builds before r → Builds (before.register d) (r.register d)
  | inherit {δ β : Type} {before : Assembly δ} {base : Assembly β} {r : Registry δ}
      {rb : Registry β} {order : Entries (Descriptor β)} (e : Embedding δ β) :
      Builds before r → Builds base rb → order.Perm rb.commands →
      Builds (before.inherit e base) (r.inherit e ⟨order⟩)

theorem coherent_registry (a : Assembly δ) : a.registry.Coherent := by
  induction a with
  | empty => exact Registry.coherent_empty
  | register before d ih => exact ih.register d
  | inherit before e base ih ihbase => exact ih.inherit ihbase.name_eq e

theorem builds_registry (a : Assembly δ) : a.Builds a.registry := by
  induction a with
  | empty => exact .empty
  | register before d ih => exact .register d ih
  | inherit before e base ih ihbase => exact .inherit e ih ihbase (.refl _)

/-- **The orders make no difference.** -/
theorem Builds.eq_registry {a : Assembly δ} {r : Registry δ} (h : Builds a r) :
    r = a.registry := by
  induction h with
  | empty => rfl
  | register d _ ih => rw [registry, ih]
  | @inherit _ _ before base _ _ _ e _ _ hperm ih ihbase =>
    -- the base came about in some order too, and by now it is known that this did not matter
    rw [ihbase] at hperm
    rw [registry, ih]
    exact Registry.inherit_perm before.coherent_registry e base.coherent_registry hperm

end Assembly

/-! ## Who supplies a command -/

/-- The command that an operation supplies under a name. -/
def Operation.supply? (name : String) : Operation δ → Option (Descriptor δ)
  | .register d => if d.name = name then some d else none
  | .inherit e base => (base.registry.get? name).map (Descriptor.lift e)

theorem Operation.eq_of_supply?_register {d d' : Descriptor δ} {name : String}
    (h : (register d).supply? name = some d') : d = d' := by
  rw [supply?] at h
  split at h
  · exact Option.some.inj h
  · cases h

namespace Assembly

/-- The command that the last operation to supply one supplies under a name. -/
def lastSupply? (a : Assembly δ) (name : String) : Option (Descriptor δ) :=
  (a.operations.filterMap (Operation.supply? name)).getLast?

theorem lastSupply?_concat {a : Assembly δ} {before : List (Operation δ)} {op : Operation δ}
    (h : a.operations = before ++ [op]) (name : String) :
    a.lastSupply? name
      = (op.supply? name).or (before.filterMap (Operation.supply? name)).getLast? := by
  rw [lastSupply?, h, List.filterMap_append, List.getLast?_append]
  cases hop : op.supply? name with
  | none => rw [List.filterMap_cons_none hop]; rfl
  | some d => rw [List.filterMap_cons_some hop]; rfl

/-- **The last one to supply a command decides.** -/
theorem get?_registry (a : Assembly δ) (name : String) :
    a.registry.get? name = a.lastSupply? name := by
  induction a with
  | empty => rfl
  | register before d ih =>
    rw [registry, Registry.get?_register, lastSupply?_concat rfl, ← lastSupply?, ← ih,
      Operation.supply?]
    split <;> rfl
  | inherit before e base ih _ =>
    rw [registry, Registry.get?_inherit _ e base.coherent_registry.sorted.nodup,
      lastSupply?_concat rfl, ← lastSupply?, ← ih]
    rfl

theorem exists_supply {a : Assembly δ} {name : String} {d : Descriptor δ}
    (h : a.registry.get? name = some d) : ∃ op ∈ a.operations, op.supply? name = some d := by
  rw [get?_registry] at h
  exact List.mem_filterMap.1 (List.mem_of_getLast? h)

/--
**How registries are merged.**

Whatever operations a registry comes about by, and in whatever orders the registries that it takes
over are visited, it is the same registry. Under a name it holds the command of the last operation
that supplies one, whole, and nothing if no operation does; the command carries that name. The names
are listed in order, each once, and they are those under which there is a command.
-/
theorem Builds.merges {a : Assembly δ} {r : Registry δ} (h : Builds a r) :
    r = a.registry
      ∧ (∀ name, r.get? name = (a.operations.filterMap (Operation.supply? name)).getLast?)
      ∧ (∀ name d, r.get? name = some d → d.name = name)
      ∧ r.names.Pairwise (· < ·)
      ∧ (∀ name, name ∈ r.names ↔ (r.get? name).isSome = true)
      ∧ r.size = r.names.length := by
  have hcoherent := a.coherent_registry
  obtain rfl := h.eq_registry
  refine ⟨rfl, a.get?_registry, fun name d => hcoherent.name_of_get?, ?_, ?_, ?_⟩
  · exact List.pairwise_map.2 hcoherent.sorted
  · exact fun name => Entries.get?_isSome_iff.symm
  · exact (List.length_map _).symm

/-! ## The registry of plugs -/

/-- How the registry of generic devices comes about. -/
def ofGenericDevice : Assembly GenericDevice :=
  (empty.register GenericDevice.infoCommand).register GenericDevice.rawCommand

theorem registry_ofGenericDevice : ofGenericDevice.registry = GenericDevice.registry := rfl

/-- The commands that plugs have of their own. -/
def plugCommands : List (Descriptor Plug) :=
  [Plug.infoCommand, Plug.statusCommand, Plug.powerCommand true, Plug.powerCommand false,
    Plug.ledCommand, Plug.propertiesCommand]

/-- How the registry of plugs comes about. -/
def ofPlug : Assembly Plug :=
  plugCommands.foldl register (empty.inherit Plug.embedding ofGenericDevice)

theorem registry_ofPlug : ofPlug.registry = Plug.registry := rfl

theorem operations_ofPlug :
    ofPlug.operations = .inherit Plug.embedding ofGenericDevice :: plugCommands.map .register := rfl

theorem cases_ofGenericDevice {name : String} {d : Descriptor GenericDevice}
    (h : GenericDevice.registry.get? name = some d) :
    d = GenericDevice.infoCommand ∨ d = GenericDevice.rawCommand := by
  rw [← registry_ofGenericDevice] at h
  obtain ⟨op, hmem, hsupply⟩ := exists_supply h
  have hops : ofGenericDevice.operations
      = [.register GenericDevice.infoCommand, .register GenericDevice.rawCommand] := rfl
  rw [hops, List.mem_cons, List.mem_singleton] at hmem
  rcases hmem with rfl | rfl
  · exact Or.inl (Operation.eq_of_supply?_register hsupply).symm
  · exact Or.inr (Operation.eq_of_supply?_register hsupply).symm

theorem cases_plugCommands {d : Descriptor Plug} (h : d ∈ plugCommands) :
    d = Plug.infoCommand ∨ d = Plug.statusCommand ∨ (∃ on, d = Plug.powerCommand on)
      ∨ d = Plug.ledCommand ∨ d = Plug.propertiesCommand := by
  simp only [plugCommands, List.mem_cons, List.not_mem_nil, or_false] at h
  rcases h with h | h | h | h | h | h
  · exact Or.inl h
  · exact Or.inr (Or.inl h)
  · exact Or.inr (Or.inr (Or.inl ⟨true, h⟩))
  · exact Or.inr (Or.inr (Or.inl ⟨false, h⟩))
  · exact Or.inr (Or.inr (Or.inr (Or.inl h)))
  · exact Or.inr (Or.inr (Or.inr (Or.inr h)))

/-- The commands of plugs: their own, and the one that sends any request. -/
theorem cases_ofPlug {name : String} {d : Descriptor Plug} (h : Plug.registry.get? name = some d) :
    d ∈ plugCommands ∨ d = GenericDevice.rawCommand.lift Plug.embedding := by
  have hname := ofPlug.coherent_registry.name_of_get? h
  rw [← registry_ofPlug] at h
  obtain ⟨op, hmem, hsupply⟩ := exists_supply h
  rw [operations_ofPlug, List.mem_cons] at hmem
  rcases hmem with rfl | hmem
  · obtain ⟨base, hbase, rfl⟩ := Option.map_eq_some_iff.1 hsupply
    rcases cases_ofGenericDevice hbase with rfl | rfl
    · -- under this name there is a command of the plug's own
      have hinfo : Plug.registry.get? "info" = some Plug.infoCommand := rfl
      subst hname
      rw [registry_ofPlug] at h
      exact Or.inl (Option.some.inj (h.symm.trans hinfo) ▸ List.mem_cons_self)
    · exact Or.inr rfl
  · obtain ⟨own, hown, rfl⟩ := List.mem_map.1 hmem
    exact Or.inl (Operation.eq_of_supply?_register hsupply ▸ hown)

/-- A plug takes over two commands, visited last one first, and replaces one of them. -/
theorem merges_plug :
    let base := GenericDevice.registry
    let r := plugCommands.foldl Registry.register
      (Registry.empty.inherit Plug.embedding ⟨base.commands.reverse⟩)
    r = Plug.registry
      ∧ r.names = ["info", "led", "off", "on", "properties", "raw-command", "status"]
      ∧ r.get? "info" = some Plug.infoCommand
      ∧ r.get? "raw-command" = some (GenericDevice.rawCommand.lift Plug.embedding) := by
  intro base r
  have hbase : Builds ofGenericDevice base := (Builds.empty.register _).register _
  have hplug : Builds ofPlug r :=
    ((((((Builds.empty.inherit Plug.embedding hbase (List.reverse_perm _)).register _).register
      _).register _).register _).register _).register _
  obtain ⟨hr, hget, -⟩ := hplug.merges
  refine ⟨hr, ?_, ?_, ?_⟩
  · rw [hr]
    decide +kernel
  · rw [hget]
    rfl
  · rw [hget]
    rfl

end Assembly

end Switchboard
