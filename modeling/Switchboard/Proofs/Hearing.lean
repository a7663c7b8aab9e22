import Switchboard.Proofs.Watch

/-!
# Calls that are heard

A call hands its events over when it has ended. Whoever reads the output does not wait for that:
every event is heard when it is emitted, and nothing in the call can ask what became of it. Here a
call is followed with a `Listener` beside its device, which hears every event and the end of every
stage, and keeps what it likes.

A heard call is the call (`Composed.simulates_heardCall`), and what was heard of it are its events,
each once and in their order (`Composed.read_heardCall`). Both hold of every listener, so a sink
that breaks and a trace of the stages are two cases of one argument.
-/

namespace Switchboard

variable {δ σ τ : Type}

/-- The stages of a call. -/
inductive Stage where
  | decorator (name : String)
  | output
  | guard
  | method
  deriving DecidableEq, Repr

/-- Someone who hears a call, and whose state nothing in the call can read. -/
structure Listener (σ : Type) where
  /-- Before anything is heard. -/
  start : σ
  /-- A stage emits an event. -/
  emitted : Stage → Event → σ → σ
  /-- A stage ends. -/
  ended : Stage → Result → σ → σ

/-- A device with the state of a listener beside it. -/
structure Heard (σ δ : Type) where
  device : δ
  ear : σ

namespace Listener

/-- Hears events of a stage one after the other. -/
def hear (l : Listener σ) (stage : Stage) (events : List Event) (ear : σ) : σ :=
  events.foldl (fun ear event => l.emitted stage event ear) ear

/-- A device type with a listener, which hears the guard fetch. -/
def type (l : Listener σ) (t : DeviceType δ) : DeviceType (Heard σ δ) where
  typeName := t.typeName
  groupName := t.groupName
  about := t.about
  supportedModels := t.supportedModels
  registry := none
  connect connection := ⟨t.connect connection, l.start⟩
  model h := t.model h.device
  hasInfo h := t.hasInfo h.device
  fetchInfo h :=
    let fetch := t.fetchInfo h.device
    ⟨⟨fetch.device, l.hear .guard fetch.events h.ear⟩, fetch.events, fetch.result⟩

/-- A rest whose events are heard. -/
def hearing (l : Listener σ) (stage : Stage) (rest : Rest δ) : Rest (Heard σ δ) :=
  fun arguments h =>
    let call := rest arguments h.device
    call.onDevice fun device => ⟨device, l.hear stage call.events h.ear⟩

/-- A rest as a stage, the end of which is heard. -/
def closing (l : Listener σ) (stage : Stage) (rest : Rest (Heard σ δ)) : Rest (Heard σ δ) :=
  fun arguments h =>
    let call := rest arguments h
    call.onDevice fun h => { h with ear := l.ended stage call.result h.ear }

/-- Follows a course as `Course.run` does. What the course emits is heard before it goes on. -/
def follow (l : Listener σ) (stage : Stage) (rest : Rest (Heard σ δ)) :
    Course → Heard σ δ → Call (Heard σ δ)
  | .finish arguments result, h => .ended h arguments result
  | .emit event course, h =>
    (l.follow stage rest course { h with ear := l.emitted stage event h.ear }).after [event]
  | .proceed arguments resume, h =>
    let call := rest arguments h
    (l.follow stage rest (resume call.arguments call.result) call.device).after call.events

/-- A layer around a rest, as a stage. -/
def around (l : Listener σ) (stage : Stage) (layer : Layer) (rest : Rest (Heard σ δ)) :
    Rest (Heard σ δ) :=
  l.closing stage fun arguments h => l.follow stage rest (layer.course arguments) h

/-- Decorators around a rest, the first outermost. -/
def nest (l : Listener σ) (decorators : List Layer) (rest : Rest (Heard σ δ)) :
    Rest (Heard σ δ) :=
  decorators.foldr (fun layer rest => l.around (.decorator layer.name) layer rest) rest

end Listener

namespace Composed

/-- The guarded method of a command with a listener. -/
def heardCore (l : Listener σ) (d : Descriptor δ) (type : DeviceType δ) : Rest (Heard σ δ) :=
  let method := l.closing .method (l.hearing .method d.method)
  if d.skipsAutodetect then method else l.closing .guard (autodetect (l.type type) method)

/-- A call of a command in a context with a listener. -/
def heardCall (l : Listener σ) (d : Descriptor δ) (context : Context) (type : DeviceType δ) :
    Rest (Heard σ δ) :=
  l.nest d.decorators.reverse (l.around .output (output d context).layer (heardCore l d type))

end Composed

/-! ## The call without its listener -/

namespace Simulates

variable {l : Listener σ} {outer : Rest (Heard σ δ)} {inner : Rest δ}

theorem hearing (l : Listener σ) (stage : Stage) (rest : Rest δ) :
    Simulates Heard.device (l.hearing stage rest) rest :=
  fun _ _ => rfl

theorem closing (h : Simulates Heard.device outer inner) (stage : Stage) :
    Simulates Heard.device (l.closing stage outer) inner :=
  fun arguments w => h arguments w

theorem follow (h : Simulates Heard.device outer inner) (stage : Stage) (course : Course)
    (w : Heard σ δ) :
    (l.follow stage outer course w).onDevice Heard.device = course.run inner w.device := by
  induction course generalizing w with
  | finish arguments result => rfl
  | emit event course ih => rw [Listener.follow, Course.run, Call.onDevice_after, ih]
  | proceed arguments resume ih =>
    rw [Listener.follow, Course.run, Call.onDevice_after, ih, ← h arguments w]
    rfl

theorem heardAround (h : Simulates Heard.device outer inner) (stage : Stage) (layer : Layer) :
    Simulates Heard.device (l.around stage layer outer) (layer.around inner) := by
  have hfollow : Simulates Heard.device
      (fun arguments w => l.follow stage outer (layer.course arguments) w) (layer.around inner) :=
    fun arguments w => h.follow stage (layer.course arguments) w
  exact hfollow.closing stage

theorem heardNest (h : Simulates Heard.device outer inner) (decorators : List Layer) :
    Simulates Heard.device (l.nest decorators outer) (Layer.nest decorators inner) := by
  induction decorators with
  | nil => exact h
  | cons layer layers ih => exact ih.heardAround _ layer

end Simulates

theorem Listener.delegates_type (l : Listener σ) (t : DeviceType δ) :
    Delegates Heard.device (l.type t) t :=
  ⟨fun _ => rfl, fun _ => rfl⟩

namespace Composed

/-- **A heard call is the call.** -/
theorem simulates_heardCall (l : Listener σ) (d : Descriptor δ) (context : Context)
    (type : DeviceType δ) :
    Simulates Heard.device (heardCall l d context type) ((compose d context).call type) := by
  have hmethod : Simulates Heard.device
      (l.closing .method (l.hearing .method d.method)) d.method :=
    (Simulates.hearing l .method d.method).closing .method
  have hcore : Simulates Heard.device (heardCore l d type) ((compose d context).core type) := by
    unfold heardCore core compose
    cases d.skipsAutodetect with
    | true => exact hmethod
    | false => exact (hmethod.autodetect (l.delegates_type type)).closing .guard
  have houtput := hcore.heardAround (l := l) .output (output d context).layer
  rw [call_eq_nest]
  unfold heardCall compose Layer.nest
  rw [List.foldr_append]
  exact houtput.heardNest d.decorators.reverse

end Composed

/-! ## What was heard -/

/-- A listener from whose state the events can be read off, whichever stage they come from. -/
structure Listener.Records (l : Listener σ) (read : σ → τ) (step : τ → Event → τ) : Prop where
  emitted : ∀ stage event ear, read (l.emitted stage event ear) = step (read ear) event
  ended : ∀ stage result ear, read (l.ended stage result ear) = read ear

/-- What was heard of a rest are its events. -/
def Rest.IsHeard (read : σ → τ) (step : τ → Event → τ) (rest : Rest (Heard σ δ)) : Prop :=
  ∀ arguments h, read (rest arguments h).device.ear
    = (rest arguments h).events.foldl step (read h.ear)

namespace Listener.Records

variable {l : Listener σ} {read : σ → τ} {step : τ → Event → τ} {rest : Rest (Heard σ δ)}

theorem hear (hl : l.Records read step) (stage : Stage) (events : List Event) (ear : σ) :
    read (l.hear stage events ear) = events.foldl step (read ear) := by
  induction events generalizing ear with
  | nil => rfl
  | cons event events ih =>
    rw [List.foldl_cons, ← hl.emitted stage]
    exact ih _

theorem hearing (hl : l.Records read step) (stage : Stage) (rest : Rest δ) :
    Rest.IsHeard read step (l.hearing stage rest) :=
  fun _ h => hl.hear stage _ h.ear

theorem closing (hl : l.Records read step) (h : Rest.IsHeard read step rest) (stage : Stage) :
    Rest.IsHeard read step (l.closing stage rest) :=
  fun arguments w => (hl.ended stage _ _).trans (h arguments w)

theorem follow (hl : l.Records read step) (h : Rest.IsHeard read step rest) (stage : Stage)
    (course : Course) (w : Heard σ δ) :
    read (l.follow stage rest course w).device.ear
      = (l.follow stage rest course w).events.foldl step (read w.ear) := by
  induction course generalizing w with
  | finish arguments result => rfl
  | emit event course ih =>
    have hrest := ih { w with ear := l.emitted stage event w.ear }
    rw [hl.emitted] at hrest
    exact hrest
  | proceed arguments resume ih =>
    -- the events of the rest were heard first, then those of what comes after it
    have hcall := h arguments w
    have hrest := ih (rest arguments w).arguments (rest arguments w).result
      (rest arguments w).device
    rw [hcall, ← List.foldl_append] at hrest
    exact hrest

theorem around (hl : l.Records read step) (h : Rest.IsHeard read step rest) (stage : Stage)
    (layer : Layer) : Rest.IsHeard read step (l.around stage layer rest) :=
  hl.closing (fun arguments w => hl.follow h stage (layer.course arguments) w) stage

theorem nest (hl : l.Records read step) (h : Rest.IsHeard read step rest)
    (decorators : List Layer) : Rest.IsHeard read step (l.nest decorators rest) := by
  induction decorators with
  | nil => exact h
  | cons layer layers ih => exact hl.around ih _ layer

theorem autodetect (hl : l.Records read step) (h : Rest.IsHeard read step rest)
    (t : DeviceType δ) : Rest.IsHeard read step (Composed.autodetect (l.type t) rest) := by
  intro arguments w
  have hfetch := hl.hear .guard (t.fetchInfo w.device).events w.ear
  unfold Composed.autodetect
  split
  · exact h arguments w
  · dsimp only [type]
    split
    · -- the fetch was heard before the rest
      have hrest := h arguments
        ⟨(t.fetchInfo w.device).device, l.hear .guard (t.fetchInfo w.device).events w.ear⟩
      rw [hfetch, ← List.foldl_append] at hrest
      exact hrest
    · exact hfetch

end Listener.Records

namespace Composed

/-- **What was heard of a call are its events**, in their order. -/
theorem read_heardCall {l : Listener σ} {read : σ → τ} {step : τ → Event → τ}
    (hl : l.Records read step) (d : Descriptor δ) (context : Context) (type : DeviceType δ) :
    Rest.IsHeard read step (heardCall l d context type) := by
  have hmethod : Rest.IsHeard read step (l.closing .method (l.hearing .method d.method)) :=
    hl.closing (hl.hearing .method d.method) .method
  have hcore : Rest.IsHeard read step (heardCore l d type) := by
    unfold heardCore
    split
    · exact hmethod
    · exact hl.closing (hl.autodetect hmethod type) .guard
  exact hl.nest (hl.around hcore .output (output d context).layer) d.decorators.reverse

end Composed

end Switchboard
