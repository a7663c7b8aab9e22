import Mathlib.Data.List.Find
import Mathlib.Data.List.Sort
import Mathlib.Data.String.Basic
import Switchboard.Device.Catalog

/-!
# How catalogs fill

Device types are registered one after the other. A type without a registry is refused, and so is one
whose group has a name that is taken; the catalog is then what it was before. Nothing keeps the
groups of a catalog in order, so its readers sort and search them, and what they find rests on the
names being different.

`Holds` is what a catalog holds of the types it has taken so far, and `Holds.attempt` is what a
registration makes of it. `fill_parts` is what this comes to for types in any row.
-/

namespace Switchboard

/-- A device type, whatever its devices are. -/
structure AnyType : Type 1 where
  {Device : Type}
  type : DeviceType Device

namespace AnyType

/-- The name that the group of a type has. -/
def name (t : AnyType) : String := t.type.groupName

/-- The group of a type, if it has a registry. -/
def group? (t : AnyType) : Option AnyGroup :=
  t.type.registry.map fun registry => Group.toAny ⟨t.type, registry⟩

theorem names_of_group? {t : AnyType} {g : AnyGroup} (h : t.group? = some g) :
    g.name = t.name ∧ g.command.name = t.name := by
  obtain ⟨registry, -, rfl⟩ := Option.map_eq_some_iff.1 h
  exact ⟨rfl, rfl⟩

theorem exists_group? {t : AnyType} (h : t.type.registry ≠ none) : ∃ g, t.group? = some g := by
  obtain ⟨registry, hregistry⟩ := Option.ne_none_iff_exists'.1 h
  exact ⟨_, congrArg (Option.map _) hregistry⟩

end AnyType

namespace Catalog

variable {c : Catalog} {t : AnyType}

/-! ## Registrations -/

/-- Registers a type: the catalog afterwards, and why the type was refused if it was. A refusal
leaves the catalog that there is. -/
def attempt (c : Catalog) (t : AnyType) : Catalog × Except WiringError Unit :=
  match c.register t.type with
  | .ok after => (after, .ok ())
  | .error error => (c, .error error)

/-- The catalog after types have been registered in a row. -/
def fill (c : Catalog) (types : List AnyType) : Catalog :=
  types.foldl (fun c t => (c.attempt t).1) c

/-- Those of the types in a row that are taken. -/
def taken (c : Catalog) : List AnyType → List AnyType
  | [] => []
  | t :: types =>
    match c.attempt t with
    | (after, .ok ()) => t :: after.taken types
    | (after, .error _) => after.taken types

theorem attempt_of_unwired (h : t.type.registry = none) :
    c.attempt t = (c, .error (.unregistered t.type.typeName)) := by
  unfold attempt register Group.ofType DeviceType.registered
  rw [h]
  rfl

theorem attempt_of_wired {g : AnyGroup} (h : t.group? = some g) :
    c.attempt t = if (c.get? t.name).isSome then (c, .error (.duplicateGroup t.name))
      else (⟨c.groups ++ [g]⟩, .ok ()) := by
  obtain ⟨registry, hregistry, rfl⟩ := Option.map_eq_some_iff.1 h
  have hofType : Group.ofType t.type = .ok ⟨t.type, registry⟩ := by
    unfold Group.ofType DeviceType.registered
    rw [hregistry]
    rfl
  have hname : (⟨t.type, registry⟩ : Group t.Device).name = t.name := rfl
  unfold attempt register
  rw [hofType, Except.bind, hname]
  by_cases htaken : (c.get? t.name).isSome = true
  · rw [if_pos htaken, if_pos htaken]
  · rw [if_neg htaken, if_neg htaken]

theorem attempt_of_error {error : WiringError} (h : (c.attempt t).2 = .error error) :
    (c.attempt t).1 = c := by
  unfold attempt at h ⊢
  split at h
  · cases h
  · rfl

/-- **Refusals leave no trace**: the catalog is what those types make it that are taken. -/
theorem fill_taken (c : Catalog) (types : List AnyType) :
    c.fill (c.taken types) = c.fill types := by
  induction types generalizing c with
  | nil => rfl
  | cons t types ih =>
    have hfill : c.fill (t :: types) = (c.attempt t).1.fill types := rfl
    rw [taken, hfill]
    split
    · next after hattempt =>
      have hkept : c.fill (t :: after.taken types)
          = (c.attempt t).1.fill (after.taken types) := rfl
      rw [hkept, hattempt, ih]
    · next after error hattempt =>
      have hafter := attempt_of_error (congrArg Prod.snd hattempt)
      rw [hattempt] at hafter ⊢
      dsimp only at hafter ⊢
      rw [hafter, ih]

/-! ## What a catalog holds -/

/-- What a catalog holds of the types that it has taken. -/
structure Holds (done : List AnyType) (c : Catalog) : Prop where
  wired : ∀ t ∈ done, t.type.registry ≠ none
  /-- No two have one name. -/
  nodup : (done.map AnyType.name).Nodup
  groups : c.groups = done.filterMap AnyType.group?

variable {done : List AnyType}

theorem holds_empty : Holds [] empty := ⟨List.forall_mem_nil _, List.nodup_nil, rfl⟩

theorem Holds.map_name (h : c.Holds done) : c.groups.map AnyGroup.name = done.map AnyType.name := by
  have hname : ∀ t ∈ done, t.group?.map AnyGroup.name = some t.name := by
    intro t ht
    obtain ⟨g, hg⟩ := AnyType.exists_group? (h.wired t ht)
    rw [hg, Option.map_some, (AnyType.names_of_group? hg).1]
  rw [h.groups, List.map_filterMap, List.filterMap_congr hname]
  exact congrFun List.filterMap_eq_map done

/-- A name leads to the group of the type that has it. -/
theorem Holds.get? (h : c.Holds done) (name : String) :
    c.get? name = (done.find? (·.name = name)).bind AnyType.group? := by
  rw [Catalog.get?, h.groups, List.find?_filterMap]
  refine congrArg (Option.bind · AnyType.group?) (List.find?_congr fun t ht => ?_)
  obtain ⟨g, hg⟩ := AnyType.exists_group? (h.wired t ht)
  rw [hg, Option.any_some, (AnyType.names_of_group? hg).1]

theorem Holds.get?_eq_some (h : c.Holds done) {name : String} {g : AnyGroup}
    (hget : c.get? name = some g) : g.command.name = name := by
  rw [h.get?] at hget
  obtain ⟨t, hfind, hg⟩ := Option.bind_eq_some_iff.1 hget
  have hname := List.find?_some hfind
  rw [(AnyType.names_of_group? hg).2, of_decide_eq_true hname]

/-- There is a group under the names that have been taken. -/
theorem Holds.isSome_get?_iff (h : c.Holds done) (name : String) :
    (c.get? name).isSome = true ↔ ∃ t ∈ done, t.name = name := by
  rw [Catalog.get?, List.find?_isSome]
  have hmem : name ∈ c.groups.map AnyGroup.name ↔ name ∈ done.map AnyType.name := by
    rw [h.map_name]
  simpa only [List.mem_map, decide_eq_true_eq] using hmem

/-- **What a registration does**: it refuses a type without a registry, else a name that is taken,
else it takes the type. -/
theorem Holds.attempt (h : c.Holds done) (t : AnyType) :
    (t.type.registry = none ∧ c.attempt t = (c, .error (.unregistered t.type.typeName)))
      ∨ (t.type.registry ≠ none ∧ (∃ t' ∈ done, t'.name = t.name)
        ∧ c.attempt t = (c, .error (.duplicateGroup t.name)))
      ∨ (t.type.registry ≠ none ∧ (∀ t' ∈ done, t'.name ≠ t.name)
        ∧ ∃ after, c.attempt t = (after, .ok ()) ∧ after.Holds (done ++ [t])) := by
  by_cases hwired : t.type.registry = none
  · exact Or.inl ⟨hwired, attempt_of_unwired hwired⟩
  · obtain ⟨g, hg⟩ := AnyType.exists_group? hwired
    have hattempt := attempt_of_wired (c := c) hg
    by_cases hname : ∃ t' ∈ done, t'.name = t.name
    · rw [if_pos ((h.isSome_get?_iff t.name).2 hname)] at hattempt
      exact Or.inr (Or.inl ⟨hwired, hname, hattempt⟩)
    · rw [if_neg fun hsome => hname ((h.isSome_get?_iff t.name).1 hsome)] at hattempt
      have hfree : ∀ t' ∈ done, t'.name ≠ t.name := fun t' ht' heq => hname ⟨t', ht', heq⟩
      refine Or.inr (Or.inr ⟨hwired, hfree, _, hattempt, ?_, ?_, ?_⟩)
      · exact List.forall_mem_append.2 ⟨h.wired, List.forall_mem_singleton.2 hwired⟩
      · rw [List.map_append, List.map_singleton]
        refine h.nodup.append (List.nodup_singleton _) (List.disjoint_singleton.2 fun hmem => ?_)
        obtain ⟨t', ht', heq⟩ := List.mem_map.1 hmem
        exact hfree t' ht' heq
      · rw [List.filterMap_append, List.filterMap_cons_some hg, h.groups]
        rfl

/-- **A row of registrations keeps it.** -/
theorem Holds.fill (h : c.Holds done) (types : List AnyType) :
    (c.fill types).Holds (done ++ c.taken types) := by
  induction types generalizing c done with
  | nil => rwa [taken, List.append_nil]
  | cons t types ih =>
    have hfill : c.fill (t :: types) = (c.attempt t).1.fill types := rfl
    rw [hfill, taken]
    rcases h.attempt t with ⟨-, hattempt⟩ | ⟨-, -, hattempt⟩ | ⟨-, -, after, hattempt, hafter⟩
    · rw [hattempt]
      exact ih h
    · rw [hattempt]
      exact ih h
    · rw [hattempt]
      have hall := ih hafter
      rwa [List.append_assoc] at hall

/-! ## What its readers find -/

theorem Holds.mem_names_iff (h : c.Holds done) (name : String) :
    name ∈ c.names ↔ ∃ t ∈ done, t.name = name := by
  rw [names, List.mem_mergeSort, h.map_name, List.mem_map]

theorem Holds.pairwise_names (h : c.Holds done) : c.names.Pairwise (· < ·) := by
  have hsorted : c.names.Pairwise (· ≤ ·) := List.pairwise_mergeSort' _ _
  have hnodup : c.names.Nodup := by
    rw [names, (List.mergeSort_perm _ _).nodup_iff, h.map_name]
    exact h.nodup
  exact (hsorted.and hnodup).imp fun hpair => lt_of_le_of_ne hpair.1 hpair.2

theorem size_eq (c : Catalog) : c.size = c.names.length := by
  rw [names, List.length_mergeSort, List.length_map, size]

/-- A command that is found under a name and has it. -/
def IsCommandOf (c : Catalog) (name : String) (command : CommandLine.Command) : Prop :=
  command.name = name ∧ ∃ g, c.get? name = some g ∧ g.command = command

theorem Holds.commands (h : c.Holds done) : List.Forall₂ c.IsCommandOf c.names c.commands := by
  -- every name leads to a group, so none is passed over
  suffices hall : ∀ names : List String, (∀ name ∈ names, (c.get? name).isSome = true) →
      List.Forall₂ c.IsCommandOf names
        ((names.filterMap fun name => c.get? name).map AnyGroup.command) by
    refine hall c.names fun name hname => ?_
    rw [h.isSome_get?_iff, ← h.mem_names_iff]
    exact hname
  intro names
  induction names with
  | nil => exact fun _ => .nil
  | cons name names ih =>
    intro hnames
    obtain ⟨hname, hrest⟩ := List.forall_mem_cons.1 hnames
    obtain ⟨g, hget⟩ := Option.isSome_iff_exists.1 hname
    have hcons : (name :: names).filterMap (fun name => c.get? name)
        = g :: names.filterMap fun name => c.get? name := List.filterMap_cons_some hget
    rw [hcons, List.map_cons]
    exact .cons ⟨h.get?_eq_some hget, g, hget, rfl⟩ (ih hrest)

/--
**How catalogs fill.**

Let device types be registered in any row. One more type is refused because it has no registry
exactly if it has none, and because of its name exactly if it has a registry and a type of the row
that was taken has this name; else it is taken. A refusal leaves the catalog as it is, so that the
catalog is the same as if the types that were refused had never come. Its names ascend and are those
of the types that were taken; under each there is the group of the first of these that has the name;
there are as many groups as names; and for each name, in their order, there is one command.
-/
theorem fill_parts (types : List AnyType) :
    let c := empty.fill types
    let done := empty.taken types
    (∀ t : AnyType,
      ((c.attempt t).2 = .error (.unregistered t.type.typeName) ↔ t.type.registry = none)
        ∧ ((c.attempt t).2 = .error (.duplicateGroup t.name)
          ↔ t.type.registry ≠ none ∧ ∃ t' ∈ done, t'.name = t.name)
        ∧ ((c.attempt t).2 = .ok ()
          ↔ t.type.registry ≠ none ∧ ∀ t' ∈ done, t'.name ≠ t.name)
        ∧ (∀ error, (c.attempt t).2 = .error error → (c.attempt t).1 = c))
      ∧ c = empty.fill done
      ∧ c.names.Pairwise (· < ·)
      ∧ (∀ name, name ∈ c.names ↔ ∃ t ∈ done, t.name = name)
      ∧ (∀ name, c.get? name = (done.find? (·.name = name)).bind AnyType.group?)
      ∧ (∀ name, name ∈ c.names ↔ (c.get? name).isSome = true)
      ∧ c.size = c.names.length
      ∧ List.Forall₂ c.IsCommandOf c.names c.commands := by
  intro c done
  have h : c.Holds done := holds_empty.fill types
  refine ⟨fun t => ⟨?_, ?_, ?_, fun error => attempt_of_error⟩, (fill_taken empty types).symm,
    h.pairwise_names, h.mem_names_iff, h.get?, fun name => ?_, c.size_eq, h.commands⟩
  · rcases h.attempt t with ⟨hwired, hattempt⟩ | ⟨hwired, -, hattempt⟩ |
      ⟨hwired, -, after, hattempt, -⟩
    · simp [hattempt, hwired]
    · simp [hattempt, hwired]
    · simp [hattempt, hwired]
  · rcases h.attempt t with ⟨hwired, hattempt⟩ | ⟨hwired, hname, hattempt⟩ |
      ⟨hwired, hfree, after, hattempt, -⟩
    · simp [hattempt, hwired]
    · simp [hattempt, hwired, hname]
    · simpa [hattempt, hwired] using hfree
  · rcases h.attempt t with ⟨hwired, hattempt⟩ | ⟨hwired, hname, hattempt⟩ |
      ⟨hwired, hfree, after, hattempt, -⟩
    · simp [hattempt, hwired]
    · simpa [hattempt, hwired] using hname
    · simpa [hattempt, hwired] using hfree
  · rw [h.mem_names_iff, h.isSome_get?_iff]

/-- Between two registrations of one type, one of a type that is not wired. -/
theorem fill_parts_device :
    let device : AnyType := ⟨GenericDevice.type⟩
    let unwired : AnyType := ⟨{ Plug.type with registry := none }⟩
    let c := empty.fill [device, unwired, device]
    (c.attempt unwired).2 = .error (.unregistered Plug.type.typeName)
      ∧ (c.attempt device).2 = .error (.duplicateGroup "device")
      ∧ (c.attempt device).1 = c
      ∧ "device" ∈ c.names ∧ c.get? "device" = device.group? ∧ c = empty.fill [device] := by
  intro device unwired c
  have hdone : empty.taken [device, unwired, device] = [device] := rfl
  obtain ⟨hnext, hfill, -, hnames, hget, -⟩ := fill_parts [device, unwired, device]
  rw [hdone] at hnext hfill hnames hget
  have htaken : ∃ t ∈ [device], t.name = "device" := ⟨device, List.mem_cons_self, rfl⟩
  have hduplicate := (hnext device).2.1.2 ⟨by simp [device, GenericDevice.type], htaken⟩
  exact ⟨(hnext unwired).1.2 rfl, hduplicate, (hnext device).2.2.2 _ hduplicate,
    (hnames "device").2 htaken, hget "device", hfill⟩

end Catalog

end Switchboard
