import Switchboard.Proofs.Strategies

/-!
# JSON output and the errors it recovers from

A command without decorators is its guarded method with an output strategy around it. `Guarded`
tells apart what the guard and the method do on a device: either may fail, and a guard that fails
keeps the method from running. `call_json` says what JSON output makes of that, and of which errors.
-/

namespace Switchboard

variable {δ : Type}

namespace Composed

/-- What the guard and the method of a command do on a device. -/
inductive Guarded (d : Descriptor δ) (type : DeviceType δ) (arguments : Arguments) (device : δ) :
    Call δ → Prop where
  /-- There is nothing to find out, and the method runs. -/
  | direct : d.skipsAutodetect = true ∨ type.isIdentified device = true →
      Guarded d type arguments device (d.method arguments device)
  /-- The guard finds out what device it is, and the method runs after it. -/
  | detected : d.skipsAutodetect = false → type.isIdentified device = false →
      (type.fetchInfo device).result = .ok () →
      Guarded d type arguments device
        ((d.method arguments (type.fetchInfo device).device).after (type.fetchInfo device).events)
  /-- The guard fails, and the method does not run. -/
  | failed {error : DeviceError} : d.skipsAutodetect = false → type.isIdentified device = false →
      (type.fetchInfo device).result = .error error →
      Guarded d type arguments device ⟨(type.fetchInfo device).device, arguments,
        (type.fetchInfo device).events, .error (.device error)⟩

theorem guarded_core (d : Descriptor δ) (context : Context) (type : DeviceType δ)
    (arguments : Arguments) (device : δ) :
    Guarded d type arguments device ((compose d context).core type arguments device) := by
  unfold core
  cases hskips : d.skipsAutodetect with
  | true =>
    have hautodetects : (compose d context).autodetects = false := by simp [compose, hskips]
    rw [hautodetects]
    exact .direct (Or.inl hskips)
  | false =>
    have hautodetects : (compose d context).autodetects = true := by simp [compose, hskips]
    rw [hautodetects, if_pos rfl]
    unfold autodetect
    by_cases hknown : type.isIdentified device = true
    · rw [if_pos hknown]
      exact .direct (Or.inr hknown)
    · rw [if_neg hknown]
      rw [Bool.not_eq_true] at hknown
      dsimp only
      cases hfetch : (type.fetchInfo device).result with
      | ok _ => exact .detected hskips hknown hfetch
      | error error => exact .failed hskips hknown hfetch

/--
**What a call shows as JSON.**

A call of a command without decorators that ends with an outcome has shown its JSON value, as the
one line after all that the guard and the method emitted. It ends with an outcome wherever these
do, and also where they fail with an error that the device sent a payload with: the payload, null or
not, is then the value of the outcome. A call fails with the other errors of these and with no
others, and then nothing was shown.
-/
theorem call_json {d : Descriptor δ} (hdecorators : d.decorators = []) {context : Context}
    {pretty : Bool} (houtput : output d context = .json pretty) (type : DeviceType δ)
    (arguments : Arguments) (device : δ) :
    let inner := (compose d context).core type arguments device
    let call := (compose d context).call type arguments device
    Guarded d type arguments device inner
      ∧ (∀ outcome, call.result = .ok outcome →
        call.events = inner.events ++ [.line (Output.encode pretty outcome.toJson)])
      ∧ (∀ outcome, inner.result = .ok outcome → call.result = .ok outcome)
      ∧ (∀ message payload, inner.result = .error (.device (.response message payload)) →
        ∃ outcome, call.result = .ok outcome ∧ outcome.toJson = payload)
      ∧ ∀ error, call.result = .error error →
        inner.result = .error error ∧ ¬ error.IsResponse ∧ call.events = inner.events := by
  intro inner call
  have hlayers : ∀ layer ∈ d.decorators, ∃ name, layer = .transparent name := by
    rw [hdecorators]
    exact List.forall_mem_nil _
  have hshown : Output.Shown pretty inner call := by
    have hcall := congrFun (congrFun (call_of_transparent hlayers context type) arguments) device
    rw [houtput] at hcall
    unfold call
    rw [hcall]
    exact Output.shown_around pretty _ arguments device
  exact ⟨guarded_core d context type arguments device, fun _ => hshown.events_of_ok,
    fun _ => hshown.result_of_ok, fun _ _ => hshown.exists_of_response, fun _ => hshown.of_error⟩

/-- The guard fails with an error that the device sent null with, and the method does not run. -/
theorem call_json_null :
    let type : DeviceType Nat :=
      { countingType with fetchInfo := fun calls => ⟨calls, [], .error (.response "busy" .null)⟩ }
    let d : Descriptor Nat := { countingCommand .empty .empty with decorators := [] }
    let call := (compose d ⟨0, some (.json false)⟩).call type [] 0
    ∃ outcome, call.result = .ok outcome ∧ outcome.toJson = .null
      ∧ call.events = [.line "null"] := by
  intro type d call
  have hdecorators : d.decorators = [] := rfl
  have houtput : output d ⟨0, some (.json false)⟩ = .json false := rfl
  obtain ⟨-, hevents, -, hrecovers, -⟩ := call_json hdecorators houtput type [] 0
  obtain ⟨outcome, hresult, hjson⟩ := hrecovers "busy" .null rfl
  have hline := hevents outcome hresult
  rw [hjson] at hline
  exact ⟨outcome, hresult, hjson, hline⟩

end Composed

end Switchboard
