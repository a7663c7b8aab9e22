import Switchboard.Composed
import Switchboard.Proofs.Course

/-!
# Watched calls

What a call did is not to be read off its end: a device that is as it was before may have been
reached all the same. So a device is given marks, and what is to be seen leaves a mark on it. Layers
do not see devices, so the watched call is the call itself with marks beside its device, and that is
a `Simulates` as `Course.lean` has it. Autodetection does see the device, through its type; a type
that `Delegates` to another lets it take the same way.
-/

namespace Switchboard

variable {δ ε μ : Type}

/-! ## Types that delegate to others -/

/-- What fetching did, with the device seen through a view. -/
def Fetch.onDevice (view : δ → ε) (fetch : Fetch δ) : Fetch ε :=
  { fetch with device := view fetch.device }

/-- What autodetection asks of a device is answered by a view of the device. -/
structure Delegates (view : δ → ε) (outer : DeviceType δ) (inner : DeviceType ε) : Prop where
  /-- The view is identified when the device is. -/
  isIdentified : ∀ device, outer.isIdentified device = inner.isIdentified (view device)
  /-- Fetching for the device fetches for the view. -/
  fetchInfo : ∀ device, (outer.fetchInfo device).onDevice view = inner.fetchInfo (view device)

namespace Simulates

variable {view : δ → ε}

theorem autodetect {outerType : DeviceType δ} {innerType : DeviceType ε} {outer : Rest δ}
    {inner : Rest ε} (hd : Delegates view outerType innerType) (h : Simulates view outer inner) :
    Simulates view (Composed.autodetect outerType outer) (Composed.autodetect innerType inner) := by
  intro arguments device
  have hf := hd.fetchInfo device
  have hdevice : view (outerType.fetchInfo device).device
      = (innerType.fetchInfo (view device)).device := congrArg Fetch.device hf
  have hevents : (outerType.fetchInfo device).events
      = (innerType.fetchInfo (view device)).events := congrArg Fetch.events hf
  have hresult : (outerType.fetchInfo device).result
      = (innerType.fetchInfo (view device)).result := congrArg Fetch.result hf
  unfold Composed.autodetect
  rw [hd.isIdentified]
  split
  · -- a device that is known is called as it is
    exact h arguments device
  · dsimp only
    rw [hresult]
    cases (innerType.fetchInfo (view device)).result with
    | ok _ =>
      dsimp only
      rw [Call.onDevice_after, h, hdevice, hevents]
    | error error =>
      dsimp only [Call.onDevice]
      rw [hdevice, hevents]

end Simulates

/-! ## Marks beside a device -/

/-- A device with marks of what was done to it, in order. -/
structure Watched (μ δ : Type) where
  device : δ
  marks : List μ

namespace Watched

/-- A device that nothing was done to yet. -/
def fresh (device : δ) : Watched μ δ := ⟨device, []⟩

/-- Leaves a mark. -/
def mark (m : μ) (w : Watched μ δ) : Watched μ δ := { w with marks := w.marks ++ [m] }

@[simp] theorem mark_device (m : μ) (w : Watched μ δ) : (w.mark m).device = w.device := rfl

@[simp] theorem mark_marks (m : μ) (w : Watched μ δ) : (w.mark m).marks = w.marks ++ [m] := rfl

/-- The device of a watched device. -/
def part : Embedding (Watched μ δ) δ where
  view w := w.device
  put d w := { w with device := d }
  view_put _ _ := rfl
  put_view _ := rfl
  put_put _ _ _ := rfl

/-- A device type on watched devices. Fetching leaves marks of its own. -/
def type (fetching : List μ) (t : DeviceType δ) : DeviceType (Watched μ δ) where
  typeName := t.typeName
  groupName := t.groupName
  about := t.about
  supportedModels := t.supportedModels
  registry := none
  connect connection := fresh (t.connect connection)
  model w := t.model w.device
  hasInfo w := t.hasInfo w.device
  fetchInfo w :=
    let fetch := t.fetchInfo w.device
    ⟨⟨fetch.device, w.marks ++ fetching⟩, fetch.events, fetch.result⟩

theorem delegates_type (fetching : List μ) (t : DeviceType δ) :
    Delegates Watched.device (type fetching t) t :=
  ⟨fun _ => rfl, fun _ => rfl⟩

theorem simulates_lift (rest : Rest δ) :
    Simulates Watched.device ((part (μ := μ)).lift rest) rest :=
  part.simulates_lift rest

/-- A rest that leaves a mark before it starts. -/
def marking (m : Arguments → μ) (rest : Rest (Watched μ δ)) : Rest (Watched μ δ) :=
  fun arguments w => rest arguments (w.mark (m arguments))

/-- Autodetection in front of a marked rest leaves the marks of fetching, the mark of the rest, or
both of them in this order. -/
theorem autodetect_marks (fetching : List μ) (m : Arguments → μ) (t : DeviceType δ) (rest : Rest δ)
    (arguments : Arguments) (w : Watched μ δ) :
    ∃ new, (Composed.autodetect (type fetching t) (marking m (part.lift rest)) arguments
          w).device.marks = w.marks ++ new
      ∧ (new = [m arguments] ∨ new = fetching ++ [m arguments] ∨ new = fetching) := by
  unfold Composed.autodetect
  split
  · exact ⟨_, rfl, Or.inl rfl⟩
  · dsimp only
    split
    · refine ⟨fetching ++ [m arguments], ?_, Or.inr (Or.inl rfl)⟩
      exact List.append_assoc _ _ _
    · exact ⟨fetching, rfl, Or.inr (Or.inr rfl)⟩

theorem simulates_marking (m : Arguments → μ) {rest : Rest (Watched μ δ)} {inner : Rest δ}
    (h : Simulates Watched.device rest inner) :
    Simulates Watched.device (marking m rest) inner :=
  fun arguments w => h arguments (w.mark (m arguments))

end Watched

end Switchboard
