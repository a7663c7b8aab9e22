import Switchboard.Group
import Switchboard.Proofs.Registries
import Switchboard.Proofs.Watch

/-!
# Inherited commands

A command that was taken over reaches its device in two ways. The method goes down the embeddings,
one after the other, to the part it was written for. The guard in front of it asks the type of the
whole device, which knows nothing of the command. If that type passes on to the same part all that
it is asked (`Embedding.PassesOn`), then both ways lead to one device, and the command on the whole
is the command on the part, lifted: `call_lift`.

A lifted call says more than a simulated one as `Course.lean` has it. It also tells that whatever
lies outside the part is left as it was.

`Inherits` tells which commands this is about. `Inherits.runs_on_part` puts the two together for
sessions.
-/

namespace Switchboard

variable {δ ε β : Type}

/-! ## Lifted courses -/

namespace Embedding

/-- Every device is a part of itself. -/
def self : Embedding δ δ where
  view whole := whole
  put part _ := part
  view_put _ _ := rfl
  put_view _ := rfl
  put_put _ _ _ := rfl

/-- What fetching did for the part, as what it did for the whole. -/
def liftFetch (e : Embedding δ β) (whole : δ) (fetch : Fetch β) : Fetch δ :=
  { fetch with device := e.put fetch.device whole }

/-- A type answers what autodetection asks of a device by passing it on to a part. -/
structure PassesOn (e : Embedding δ β) (outer : DeviceType δ) (inner : DeviceType β) : Prop where
  model : ∀ whole, outer.model whole = inner.model (e.view whole)
  hasInfo : ∀ whole, outer.hasInfo whole = inner.hasInfo (e.view whole)
  fetchInfo : ∀ whole, outer.fetchInfo whole = e.liftFetch whole (inner.fetchInfo (e.view whole))

theorem PassesOn.isIdentified {e : Embedding δ β} {outer : DeviceType δ} {inner : DeviceType β}
    (h : e.PassesOn outer inner) (whole : δ) :
    outer.isIdentified whole = inner.isIdentified (e.view whole) := by
  unfold DeviceType.isIdentified
  rw [h.model, h.hasInfo]

theorem PassesOn.trans {outerPart : Embedding δ ε} {innerPart : Embedding ε β}
    {outer : DeviceType δ} {mid : DeviceType ε} {inner : DeviceType β}
    (h : outerPart.PassesOn outer mid) (h' : innerPart.PassesOn mid inner) :
    (outerPart.trans innerPart).PassesOn outer inner where
  model whole := by rw [h.model, h'.model]; rfl
  hasInfo whole := by rw [h.hasInfo, h'.hasInfo]; rfl
  fetchInfo whole := by rw [h.fetchInfo, h'.fetchInfo]; rfl

variable (e : Embedding δ β)

/-- What was in the place of the part does not matter. -/
theorem liftCall_put (part : β) (whole : δ) (call : Call β) :
    e.liftCall (e.put part whole) call = e.liftCall whole call := by
  unfold liftCall
  rw [e.put_put]

/-- A part that is put back where it was changes nothing. -/
theorem liftCall_ended (whole : δ) (arguments : Arguments) (result : Result) :
    e.liftCall whole (.ended (e.view whole) arguments result) = .ended whole arguments result := by
  unfold liftCall Call.ended
  rw [e.put_view]

theorem liftCall_after (whole : δ) (events : List Event) (call : Call β) :
    e.liftCall whole (call.after events) = (e.liftCall whole call).after events := rfl

/-- **A course around a lifted rest is the course around the rest, lifted.** The part is put back
after every call of the rest and looked at again for the next. -/
theorem run_lift (rest : Rest β) (course : Course) (whole : δ) :
    course.run (e.lift rest) whole = e.liftCall whole (course.run rest (e.view whole)) := by
  induction course generalizing whole with
  | finish arguments result => exact (e.liftCall_ended whole arguments result).symm
  | emit event course ih => rw [Course.run, Course.run, ih, liftCall_after]
  | proceed arguments resume ih =>
    have hcall : e.lift rest arguments whole
        = e.liftCall whole (rest arguments (e.view whole)) := rfl
    rw [Course.run, Course.run, liftCall_after, ih, hcall]
    dsimp only [liftCall]
    rw [e.view_put, e.put_put]

theorem nest_lift (layers : List Layer) (rest : Rest β) :
    Layer.nest layers (e.lift rest) = e.lift (Layer.nest layers rest) := by
  induction layers with
  | nil => rfl
  | cons layer layers ih =>
    rw [Layer.nest, List.foldr_cons, ← Layer.nest, ih]
    funext arguments whole
    exact e.run_lift _ (layer.course arguments) whole

variable {e} in
/-- The guard of the whole finds what the guard of the part finds, and fetches for the part. -/
theorem PassesOn.autodetect_lift {outer : DeviceType δ} {inner : DeviceType β}
    (h : e.PassesOn outer inner) (rest : Rest β) :
    Composed.autodetect outer (e.lift rest) = e.lift (Composed.autodetect inner rest) := by
  funext arguments whole
  unfold Composed.autodetect lift
  rw [h.isIdentified, h.fetchInfo]
  dsimp only [liftFetch]
  by_cases hknown : inner.isIdentified (e.view whole) = true
  · rw [if_pos hknown, if_pos hknown]
  · rw [if_neg hknown, if_neg hknown]
    cases (inner.fetchInfo (e.view whole)).result with
    | ok _ =>
      dsimp only
      rw [e.view_put, liftCall_put, liftCall_after]
    | error error => rfl

end Embedding

/-! ## Lifted commands -/

namespace Descriptor

theorem lift_self (d : Descriptor δ) : d.lift .self = d := rfl

theorem lift_trans (outerPart : Embedding δ ε) (innerPart : Embedding ε β) (d : Descriptor β) :
    d.lift (outerPart.trans innerPart) = (d.lift innerPart).lift outerPart := rfl

end Descriptor

/-- **A lifted command is called as the command is called on the part**, and that is lifted. -/
theorem Composed.call_lift {e : Embedding δ β} {outer : DeviceType δ} {inner : DeviceType β}
    (h : e.PassesOn outer inner) (d : Descriptor β) (context : Context) :
    (compose (d.lift e) context).call outer = e.lift ((compose d context).call inner) := by
  have hcore : (compose (d.lift e) context).core outer
      = e.lift ((compose d context).core inner) := by
    unfold core compose Descriptor.lift
    cases d.skipsAutodetect with
    | true => rfl
    | false => exact h.autodetect_lift d.method
  rw [call_eq_nest, call_eq_nest, hcore]
  exact e.nest_lift _ _

/-! ## Which commands are inherited -/

/-- The command of a name is taken over from an assembly, and there acts on this part. -/
inductive Assembly.Inherits (name : String) :
    {δ β : Type} → Assembly δ → Embedding δ β → Assembly β → Prop where
  /-- Nothing was taken over yet. -/
  | self {δ : Type} (base : Assembly δ) : Inherits name base .self base
  /-- One of the operations takes the command over, and none that comes after it replaces it. -/
  | inherit {δ ε β : Type} {outer : Assembly δ} {mid : Assembly ε} {base : Assembly β}
      {outerPart : Embedding δ ε} {innerPart : Embedding ε β} {before after : List (Operation δ)} :
      outer.operations = before ++ .inherit outerPart mid :: after →
      (∀ op ∈ after, op.supply? name = none) →
      Inherits name mid innerPart base →
      Inherits name outer (outerPart.trans innerPart) base

namespace Assembly

/-- What nothing supplies later stays. -/
theorem lastSupply?_of_silent {a : Assembly δ} {before after : List (Operation δ)}
    {op : Operation δ} (h : a.operations = before ++ op :: after) {name : String}
    (hsilent : ∀ op ∈ after, op.supply? name = none) {d : Descriptor δ}
    (hd : op.supply? name = some d) : a.lastSupply? name = some d := by
  have hafter : after.filterMap (Operation.supply? name) = [] :=
    List.filterMap_eq_nil_iff.2 hsilent
  rw [lastSupply?, h, List.filterMap_append, List.filterMap_cons_some hd, hafter,
    List.getLast?_concat]

theorem Inherits.get? {name : String} {outer : Assembly δ} {e : Embedding δ β} {base : Assembly β}
    (h : Inherits name outer e base) {d : Descriptor β} (hd : base.registry.get? name = some d) :
    outer.registry.get? name = some (d.lift e) := by
  induction h with
  | self base =>
    rw [Descriptor.lift_self]
    exact hd
  | @inherit _ _ _ _ mid _ outerPart innerPart _ _ hops hsilent _ ih =>
    have hsupply : (Operation.inherit outerPart mid).supply? name
        = some (d.lift (outerPart.trans innerPart)) := by
      rw [Operation.supply?, ih hd, Option.map_some, Descriptor.lift_trans]
    rw [get?_registry]
    exact lastSupply?_of_silent hops hsilent hsupply

/--
**An inherited command is the command on the part.**

Of a type that passes on to a part what it is asked, let a command be run that it inherits from
the type of that part, over however many types between them. The result, the events and the
arguments are those of the command run on the part; the part is left as that run leaves it, and
everything outside the part as it was.
-/
theorem Inherits.runs_on_part {name : String} {outer : Assembly δ} {e : Embedding δ β}
    {base : Assembly β} (h : Inherits name outer e base) {r : Registry δ} {rb : Registry β}
    (hr : outer.Builds r) (hrb : base.Builds rb) (hname : rb.contains name = true)
    {type : DeviceType δ} {baseType : DeviceType β} (hpass : e.PassesOn type baseType)
    (context : Context) (arguments : Arguments) (whole : δ) :
    let call := (Session.mk ⟨type, r⟩ context whole).run name arguments
    let part := (Session.mk ⟨baseType, rb⟩ context (e.view whole)).run name arguments
    call.result = part.result ∧ call.events = part.events ∧ call.arguments = part.arguments
      ∧ e.view call.device = part.device ∧ e.put (e.view whole) call.device = whole := by
  intro call part
  obtain ⟨d, hd⟩ := Option.isSome_iff_exists.1 hname
  have hlift : r.get? name = some (d.lift e) := by
    rw [hr.eq_registry]
    rw [hrb.eq_registry] at hd
    exact h.get? hd
  -- both sessions find the same command, one of them lifted
  have hpart : part = (Composed.compose d context).call baseType arguments (e.view whole) := by
    dsimp only [part, Session.run, Group.resolve]
    rw [hd]
  have hcall : call = e.liftCall whole part := by
    dsimp only [call, Session.run, Group.resolve]
    rw [hlift, hpart]
    dsimp only
    rw [Composed.call_lift hpass]
    rfl
  rw [hcall]
  refine ⟨rfl, rfl, rfl, e.view_put _ _, ?_⟩
  rw [Embedding.liftCall, e.put_put, e.put_view]

end Assembly

/-! ## What plugs inherit -/

/-- A plug passes on to its generic device what it is asked. -/
theorem Plug.passesOn : Plug.embedding.PassesOn Plug.type GenericDevice.type :=
  ⟨fun _ => rfl, fun _ => rfl, fun _ => rfl⟩

/-- A watched device passes on to the device what it is asked, if fetching leaves no mark. -/
theorem Watched.passesOn {μ : Type} (type : DeviceType δ) :
    (part (μ := μ)).PassesOn (Watched.type [] type) type where
  model _ := rfl
  hasInfo _ := rfl
  fetchInfo w := by
    dsimp only [Watched.type]
    rw [List.append_nil]
    rfl

namespace Assembly

/-- Plugs inherit from generic devices the command that sends any request. -/
theorem inherits_ofPlug :
    Inherits "raw-command" ofPlug (Plug.embedding.trans .self) ofGenericDevice := by
  have hnames : ∀ d ∈ plugCommands, d.name ≠ "raw-command" := by decide +kernel
  refine .inherit (operations_ofPlug.trans (List.nil_append _).symm) ?_ (.self ofGenericDevice)
  exact List.forall_mem_map.2 fun d hd => if_neg (hnames d hd)

/-- A device that is a plug with notes on it, and takes over the commands of plugs. -/
theorem Inherits.run_rawCommand :
    let noted : Registry (Watched String Plug) := Registry.empty.inherit Watched.part Plug.registry
    let whole : Watched String Plug := ⟨Plug.connect ⟨"10.0.0.5", "", none, 0⟩, ["kitchen"]⟩
    let context : Context := ⟨0, none⟩
    let arguments : Arguments := [("command", .string "set_led"), ("parameters", .string "on")]
    let call := (Session.mk ⟨Watched.type [] Plug.type, noted⟩ context whole).run "raw-command"
      arguments
    let part := (Session.mk ⟨GenericDevice.type, GenericDevice.registry⟩ context
      whole.device.base).run "raw-command" arguments
    call.result = part.result ∧ call.events = part.events ∧ call.device.device.base = part.device
      ∧ call.device.marks = ["kitchen"] := by
  intro noted whole context arguments call part
  have hops : (empty.inherit (Watched.part (μ := String)) ofPlug).operations
      = [] ++ [.inherit Watched.part ofPlug] := rfl
  have hinherits := Inherits.inherit hops (List.forall_mem_nil _) inherits_ofPlug
  have hpass : (Watched.part.trans (Plug.embedding.trans .self)).PassesOn
      (Watched.type [] Plug.type) GenericDevice.type :=
    (Watched.passesOn (μ := String) Plug.type).trans Plug.passesOn
  obtain ⟨hresult, hevents, -, hview, hput⟩ :=
    hinherits.runs_on_part (builds_registry _) (builds_registry _) (by decide +kernel) hpass context
      arguments whole
  exact ⟨hresult, hevents, hview, congrArg Watched.marks hput⟩

end Assembly

end Switchboard
