import Switchboard.Proofs.Watch
import Switchboard.Rehearsal.Bench

/-!
# The stages of a call

A composed command is called through its stages: the layers from the outside in, the guard that
autodetects, the method. `call_compose` writes that down as a nesting, one decorator around the
other, and says that a call is exactly this nesting, whatever the layers do.

What order the stages come in is a matter of time, so it is read off a watched call: every stage
marks when it is entered and when it is left. A layer may let the call proceed twice, or not at all,
and then there is no one order. `Straight` is the run in which every layer lets it proceed once and
the guard lets it pass. In such a run the marks are those of `Composed.stages`, in order on the way
in and reversed on the way out.
-/

namespace Switchboard

variable {δ : Type}

/-! ## Marks of stages -/

/-- A stage is entered or left. -/
inductive Passage where
  | enter (stage : String)
  | leave (stage : String)
  deriving DecidableEq, Repr

/-- A rest as a stage of its own, with a mark before it and one after it. -/
def Passage.stage (name : String) (rest : Rest (Watched Passage δ)) : Rest (Watched Passage δ) :=
  fun arguments w =>
    (rest arguments (w.mark (.enter name))).onDevice fun w => w.mark (.leave name)

theorem Passage.stage_marks (name : String) (rest : Rest (Watched Passage δ))
    (arguments : Arguments) (w : Watched Passage δ) :
    (stage name rest arguments w).device.marks
      = (rest arguments (w.mark (.enter name))).device.marks ++ [.leave name] := rfl

theorem Simulates.stage {rest : Rest (Watched Passage δ)} {inner : Rest δ}
    (h : Simulates Watched.device rest inner) (name : String) :
    Simulates Watched.device (Passage.stage name rest) inner :=
  fun arguments w => h arguments (w.mark (.enter name))

namespace Layer

/-- Layers around a rest, each of them a stage. -/
def nestStages (layers : List Layer) (rest : Rest (Watched Passage δ)) :
    Rest (Watched Passage δ) :=
  layers.foldr (fun layer rest => Passage.stage layer.name (layer.around rest)) rest

theorem simulates_nestStages {rest : Rest (Watched Passage δ)} {inner : Rest δ}
    (h : Simulates Watched.device rest inner) (layers : List Layer) :
    Simulates Watched.device (nestStages layers rest) (nest layers inner) := by
  induction layers with
  | nil => exact h
  | cons layer layers ih => exact (ih.around layer).stage layer.name

/-- The run of layers around a rest in which each of them lets the call proceed exactly once. What
is asked of the device on which the rest then starts is `P`. -/
inductive Straight (rest : Rest δ) (P : δ → Prop) : List Layer → Arguments → δ → Prop where
  | core {arguments : Arguments} {device : δ} : P device → Straight rest P [] arguments device
  | layer {layer : Layer} {layers : List Layer} {arguments arguments' : Arguments}
      {device device' : δ} :
      (layer.course arguments).calls (nest layers rest) device = [(arguments', device')] →
      Straight rest P layers arguments' device' →
      Straight rest P (layer :: layers) arguments device

/-- A layer that lets the call proceed once leaves the device as the rest does. -/
theorem around_device_of_calls {outer : Rest (Watched Passage δ)} {inner : Rest δ}
    (h : Simulates Watched.device outer inner) {layer : Layer} {arguments arguments' : Arguments}
    {w : Watched Passage δ} {device' : δ}
    (hcalls : (layer.course arguments).calls inner w.device = [(arguments', device')]) :
    (layer.around outer arguments w).device = (outer arguments' w).device := by
  have hview := h.calls (layer.course arguments) w
  rw [hcalls, List.map_eq_singleton_iff] at hview
  obtain ⟨⟨arguments'', w''⟩, hone, heq⟩ := hview
  have harguments : arguments'' = arguments' := congrArg Prod.fst heq
  subst harguments
  exact (Course.run_device_of_calls_eq_singleton hone).2

/-- **In a straight run the layers are entered in order and left in reverse**, around whatever the
rest marks. -/
theorem Straight.marks {outer : Rest (Watched Passage δ)} {inner : Rest δ} {P : δ → Prop}
    {core : List Passage} (h : Simulates Watched.device outer inner)
    (hcore : ∀ arguments w, P w.device →
      (outer arguments w).device.marks = w.marks ++ core)
    {layers : List Layer} {arguments : Arguments} {w : Watched Passage δ}
    (hs : Straight inner P layers arguments w.device) :
    (nestStages layers outer arguments w).device.marks
      = w.marks ++ (layers.map fun layer => .enter layer.name) ++ core
        ++ layers.reverse.map fun layer => .leave layer.name := by
  induction layers generalizing arguments w with
  | nil =>
      cases hs with
      | core hp =>
          rw [List.reverse_nil, List.map_nil, List.map_nil, List.append_nil, List.append_nil]
          exact hcore arguments w hp
  | cons layer layers ih =>
      cases hs with
      | @layer _ _ _ arguments' _ device' hcalls hrest =>
          have hsim := simulates_nestStages h layers
          have hdevice := (Course.run_device_of_calls_eq_singleton hcalls).1
          subst hdevice
          -- the layer's one call starts on the device with its own mark on it
          have hinner := around_device_of_calls (w := w.mark (.enter layer.name)) hsim hcalls
          rw [nestStages, List.foldr_cons, ← nestStages, Passage.stage_marks, hinner,
            ih (w := w.mark (.enter layer.name)) hrest, Watched.mark_marks, List.reverse_cons,
            List.map_append, List.map_cons]
          simp only [List.append_assoc, List.cons_append, List.nil_append, List.map_cons,
            List.map_nil]

end Layer

/-! ## Commands -/

namespace Composed

/-- The guard lets a call on a device pass. -/
def GuardPasses (type : DeviceType δ) (device : δ) : Prop :=
  type.isIdentified device ∨ (type.fetchInfo device).result = .ok ()

/-- The method with the guard in front of it, both as stages. The guard is left after the method, as
it stands around it. -/
def stagedCore (c : Composed δ) (type : DeviceType δ) : Rest (Watched Passage δ) :=
  let method := Passage.stage "method" (Watched.part.lift c.method)
  if c.autodetects then
    Passage.stage "autodetect" (autodetect (Watched.type [] type) method)
  else method

/-- A call of the command with its stages marked. -/
def stagedCall (c : Composed δ) (type : DeviceType δ) : Rest (Watched Passage δ) :=
  Layer.nestStages c.layers (c.stagedCore type)

/-- A call in which each layer lets the call proceed exactly once and the guard does not fail. -/
def RunsStraight (c : Composed δ) (type : DeviceType δ) (arguments : Arguments) (device : δ) :
    Prop :=
  Layer.Straight (c.core type) (fun d => c.autodetects → GuardPasses type d) c.layers arguments
    device

/-- The names of the stages beneath the layers. -/
def coreStages (c : Composed δ) : List String :=
  (if c.autodetects then ["autodetect"] else []) ++ ["method"]

theorem stages_eq (c : Composed δ) : c.stages = c.layers.map Layer.name ++ c.coreStages := by
  unfold stages coreStages
  rw [List.append_assoc]

theorem simulates_stagedCore (c : Composed δ) (type : DeviceType δ) :
    Simulates Watched.device (c.stagedCore type) (c.core type) := by
  have hmethod : Simulates Watched.device
      (Passage.stage "method" (Watched.part.lift c.method)) c.method :=
    (Watched.simulates_lift c.method).stage "method"
  unfold stagedCore core
  cases c.autodetects with
  | true => exact (hmethod.autodetect (Watched.delegates_type [] type)).stage "autodetect"
  | false => exact hmethod

/-- **A staged call is the call**, with marks beside its device. -/
theorem simulates_stagedCall (c : Composed δ) (type : DeviceType δ) :
    Simulates Watched.device (c.stagedCall type) (c.call type) := by
  rw [call_eq_nest]
  exact Layer.simulates_nestStages (c.simulates_stagedCore type) c.layers

/-- Where the guard lets a call pass, it only puts its events in front of it. -/
theorem autodetect_of_guardPasses {type : DeviceType δ} {device : δ} (h : GuardPasses type device)
    (rest : Rest δ) (arguments : Arguments) :
    ∃ events device', autodetect type rest arguments device
        = (rest arguments device').after events
      ∧ (device' = device ∨ device' = (type.fetchInfo device).device) := by
  by_cases hknown : type.isIdentified device
  · refine ⟨[], device, ?_, Or.inl rfl⟩
    unfold autodetect
    rw [if_pos hknown]
    rfl
  · have hfetch : (type.fetchInfo device).result = .ok () := h.resolve_left hknown
    refine ⟨(type.fetchInfo device).events, (type.fetchInfo device).device, ?_, Or.inr rfl⟩
    unfold autodetect
    rw [if_neg hknown]
    dsimp only
    rw [hfetch]

theorem stagedCore_marks (c : Composed δ) (type : DeviceType δ) (arguments : Arguments)
    (w : Watched Passage δ) (h : c.autodetects → GuardPasses type w.device) :
    (c.stagedCore type arguments w).device.marks
      = w.marks ++ (c.coreStages.map .enter ++ c.coreStages.reverse.map .leave) := by
  have hmethod : ∀ w : Watched Passage δ,
      (Passage.stage "method" (Watched.part.lift c.method) arguments w).device.marks
        = w.marks ++ [.enter "method"] ++ [.leave "method"] := fun _ => rfl
  unfold stagedCore coreStages
  cases ha : c.autodetects with
  | false =>
      rw [if_neg Bool.false_ne_true, if_neg Bool.false_ne_true, hmethod, List.append_assoc]
      rfl
  | true =>
      -- fetching leaves no mark, so the method starts on the marks that the guard started on
      have hpass : GuardPasses (Watched.type [] type) (w.mark (Passage.enter "autodetect")) := h ha
      obtain ⟨events, w', hcall, hw'⟩ := autodetect_of_guardPasses hpass
        (Passage.stage "method" (Watched.part.lift c.method)) arguments
      have hmarks : w'.marks = w.marks ++ [.enter "autodetect"] := by
        rcases hw' with rfl | rfl
        · rfl
        · exact List.append_nil _
      rw [if_pos rfl, if_pos rfl, Passage.stage_marks, hcall, Call.after_device, hmethod, hmarks]
      simp only [List.append_assoc, List.cons_append, List.nil_append, List.map_cons, List.map_nil,
        List.reverse_cons, List.reverse_nil]

/-! ## The nesting -/

theorem nest_reverse_append (decorators : List Layer) (innermost : Layer) (rest : Rest δ) :
    Layer.nest (decorators.reverse ++ [innermost]) rest
      = decorators.foldl (fun rest layer => layer.around rest) (innermost.around rest) := by
  unfold Layer.nest
  rw [List.foldr_append, List.foldr_reverse]
  rfl

/--
**The order of composition.**

A call of a composed command is the nesting of its decorators, the first declared innermost, around
the output strategy around the guarded method; the strategy is the context's, else the command's
own, else the announcement of the command. It is the staged call without its marks, and if every
layer lets it proceed exactly once and the guard does not fail, then its stages are entered in the
order in which `stages` lists them and left in reverse, however the method ends.
-/
theorem call_compose (type : DeviceType δ) (d : Descriptor δ) (context : Context) :
    (compose d context).call type
        = d.decorators.foldl (fun rest layer => layer.around rest)
            (Layer.around
              (match context.output, d.defaultOutput with
                | some output, _ => output
                | none, some output => output
                | none, none => .announce d.name).layer
              (if d.skipsAutodetect then d.method else autodetect type d.method))
      ∧ Simulates Watched.device ((compose d context).stagedCall type)
          ((compose d context).call type)
      ∧ ∀ arguments device, (compose d context).RunsStraight type arguments device →
          ((compose d context).stagedCall type arguments (.fresh device)).device.marks
            = (compose d context).stages.map .enter
              ++ (compose d context).stages.reverse.map .leave := by
  refine ⟨?_, simulates_stagedCall _ type, ?_⟩
  · have hcore : (compose d context).core type
        = if d.skipsAutodetect then d.method else autodetect type d.method := by
      unfold core compose
      cases d.skipsAutodetect <;> rfl
    have houtput : output d context
        = match context.output, d.defaultOutput with
          | some output, _ => output
          | none, some output => output
          | none, none => .announce d.name := by
      unfold output
      cases context.output <;> cases d.defaultOutput <;> rfl
    -- the layers were reversed to stand outermost first
    rw [call_eq_nest, hcore, ← houtput]
    exact nest_reverse_append d.decorators (output d context).layer _
  · intro arguments device hs
    have hmarks := Layer.Straight.marks (w := .fresh device)
      ((compose d context).simulates_stagedCore type)
      (fun arguments w hp => stagedCore_marks _ type arguments w hp) hs
    unfold stagedCall
    rw [hmarks, stages_eq, List.map_append, List.reverse_append, List.map_append, List.map_map,
      ← List.map_reverse, List.map_map]
    simp only [Watched.fresh, List.nil_append, List.append_assoc, Function.comp_def]

/-- A command of two decorators whose method fails, on a device that must be identified first. -/
theorem call_compose_failing :
    let d : Descriptor Unit := .build "status"
      (fun arguments device => .ended device arguments (.error (.other "busy" [])))
      [.decorator (.transparent "inner"), .decorator (.transparent "outer")]
    let c := compose d ⟨0, some (.json false)⟩
    let type := Rehearsal.blankType "home::Lamp" "lamp" none
    c.RunsStraight type [] ()
      ∧ (c.stagedCall type [] (.fresh ())).device.marks
        = [.enter "outer", .enter "inner", .enter "json-output", .enter "autodetect",
          .enter "method", .leave "method", .leave "autodetect", .leave "json-output",
          .leave "inner", .leave "outer"] := by
  intro d c type
  have hs : c.RunsStraight type [] () :=
    .layer rfl (.layer rfl (.layer rfl (.core fun _ => Or.inr rfl)))
  exact ⟨hs, (call_compose type d ⟨0, some (.json false)⟩).2.2 [] () hs⟩

end Composed

end Switchboard
