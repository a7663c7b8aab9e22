import Switchboard.Embedding

/-!
# What a course does to its device

A course never touches the device, it only hands it to the rest of the call. Two things follow, and
both are proved here once for every course.

* Whatever the rest keeps, the course keeps. `run_relates` says so for any relation between the
  device before and after.
* A course cannot tell two devices apart. If one rest does on a whole what another does on a view of
  it, then so does every course around them (`Simulates.around`).

The second is how a call is watched, in `Watch.lean`, and how commands are inherited.
-/

namespace Switchboard

variable {δ ε μ : Type}

/-! ## Views of the device -/

namespace Call

/-- A call, with its device seen through a view. -/
def onDevice (view : δ → ε) (call : Call δ) : Call ε := { call with device := view call.device }

@[simp] theorem onDevice_arguments (view : δ → ε) (call : Call δ) :
    (call.onDevice view).arguments = call.arguments := rfl

@[simp] theorem onDevice_result (view : δ → ε) (call : Call δ) :
    (call.onDevice view).result = call.result := rfl

@[simp] theorem onDevice_device (view : δ → ε) (call : Call δ) :
    (call.onDevice view).device = view call.device := rfl

@[simp] theorem onDevice_events (view : δ → ε) (call : Call δ) :
    (call.onDevice view).events = call.events := rfl

@[simp] theorem after_device (events : List Event) (call : Call δ) :
    (call.after events).device = call.device := rfl

@[simp] theorem after_result (events : List Event) (call : Call δ) :
    (call.after events).result = call.result := rfl

theorem onDevice_after (view : δ → ε) (events : List Event) (call : Call δ) :
    (call.after events).onDevice view = (call.onDevice view).after events := rfl

end Call

/-- One rest does on a device what another does on the view of it. -/
def Simulates (view : δ → ε) (outer : Rest δ) (inner : Rest ε) : Prop :=
  ∀ arguments device, (outer arguments device).onDevice view = inner arguments (view device)

namespace Simulates

variable {view : δ → ε} {outer : Rest δ} {inner : Rest ε}

theorem run (h : Simulates view outer inner) (course : Course) (device : δ) :
    (course.run outer device).onDevice view = course.run inner (view device) := by
  induction course generalizing device with
  | finish arguments result => rfl
  | emit event course ih =>
    rw [Course.run, Course.run, Call.onDevice_after, ih]
  | proceed arguments resume ih =>
    rw [Course.run, Course.run, Call.onDevice_after, ih, ← h arguments device]
    rfl

/-- **Layers do not see the device**, so they stand around either rest alike. -/
theorem around (h : Simulates view outer inner) (layer : Layer) :
    Simulates view (layer.around outer) (layer.around inner) :=
  fun arguments device => h.run (layer.course arguments) device

theorem nest (h : Simulates view outer inner) (layers : List Layer) :
    Simulates view (Layer.nest layers outer) (Layer.nest layers inner) := by
  induction layers with
  | nil => exact h
  | cons layer layers ih => exact ih.around layer

end Simulates

/-- What is lifted from a part does to the whole, seen from the part, what it did before. -/
theorem Embedding.simulates_lift (e : Embedding δ ε) (rest : Rest ε) :
    Simulates e.view (e.lift rest) rest := by
  intro arguments device
  unfold Embedding.lift Embedding.liftCall Call.onDevice
  rw [e.view_put]

/-! ## What the rest keeps -/

/-- A relation between devices that holds across every call of the rest holds across the course. -/
theorem Course.run_relates {R : δ → δ → Prop} (refl : ∀ d, R d d)
    (trans : ∀ {d₁ d₂ d₃}, R d₁ d₂ → R d₂ d₃ → R d₁ d₃) {rest : Rest δ}
    (h : ∀ arguments d, R d (rest arguments d).device) (course : Course) (d : δ) :
    R d (course.run rest d).device := by
  induction course generalizing d with
  | finish arguments result => exact refl d
  | emit event course ih => exact ih d
  | proceed arguments resume ih =>
    exact trans (h arguments d) (ih _ _ (rest arguments d).device)

/-- The same across layers. -/
theorem Layer.nest_relates {R : δ → δ → Prop} (refl : ∀ d, R d d)
    (trans : ∀ {d₁ d₂ d₃}, R d₁ d₂ → R d₂ d₃ → R d₁ d₃) {rest : Rest δ}
    (h : ∀ arguments d, R d (rest arguments d).device) (layers : List Layer) :
    ∀ arguments d, R d (nest layers rest arguments d).device := by
  induction layers with
  | nil => exact h
  | cons layer layers ih =>
    exact fun arguments d => (layer.course arguments).run_relates refl trans ih d

/-! ## The calls of the rest -/

/-- The calls of the rest that a course makes on a device, in order: the arguments of each and the
device it starts on. -/
def Course.calls (rest : Rest δ) : Course → δ → List (Arguments × δ)
  | .finish _ _, _ => []
  | .emit _ course, device => course.calls rest device
  | .proceed arguments resume, device =>
    let call := rest arguments device
    (arguments, device) :: (resume call.arguments call.result).calls rest call.device

/-- A course that makes no call leaves the device alone. -/
theorem Course.run_device_of_calls_eq_nil {rest : Rest δ} {course : Course} {device : δ}
    (h : course.calls rest device = []) : (course.run rest device).device = device := by
  induction course with
  | finish arguments result => rfl
  | emit event course ih => exact ih h
  | proceed arguments resume ih => exact absurd h (List.cons_ne_nil _ _)

/-- A course that makes one call makes it on the device as it is, and leaves the device as the call
does. -/
theorem Course.run_device_of_calls_eq_singleton {rest : Rest δ} {course : Course}
    {device device' : δ} {arguments : Arguments}
    (h : course.calls rest device = [(arguments, device')]) :
    device' = device ∧ (course.run rest device).device = (rest arguments device).device := by
  induction course with
  | finish arguments result => exact absurd h (List.cons_ne_nil _ _).symm
  | emit event course ih => exact ih h
  | proceed arguments' resume ih =>
    -- the one call is this one, so what comes after it makes none
    obtain ⟨hcall, hrest⟩ := List.cons.inj h
    obtain ⟨rfl, rfl⟩ := Prod.mk.inj hcall
    exact ⟨rfl, Course.run_device_of_calls_eq_nil hrest⟩

/-- A simulated course makes the same calls, on the views of the devices. -/
theorem Simulates.calls {view : δ → ε} {outer : Rest δ} {inner : Rest ε}
    (h : Simulates view outer inner) (course : Course) (device : δ) :
    (course.calls outer device).map (Prod.map id view) = course.calls inner (view device) := by
  induction course generalizing device with
  | finish arguments result => rfl
  | emit event course ih => exact ih device
  | proceed arguments resume ih =>
    rw [Course.calls, Course.calls, List.map_cons, ih, ← h arguments device]
    rfl

end Switchboard
