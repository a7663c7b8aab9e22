import Switchboard.Output

/-!
# What JSON output makes of a call

JSON output shows one value and ends the call with it, or shows nothing and passes an error on.
`Output.Shown` tells the ways apart, and `Output.shown_around` says that there are no others.

An outcome may bring a structured view along, which is shown in the place of its JSON value. That
whoever reads the output and whoever called see the same value is because the view is that value
(`Outcome.structured_eq`).
-/

namespace Switchboard

variable {δ : Type}

/-- **A structured view is the JSON value**, in each kind of outcome that has one. -/
theorem Outcome.structured_eq (outcome : Outcome) :
    outcome.structured?.getD outcome.toJson = outcome.toJson := by
  cases outcome <;> rfl

/-- An error that a device sent a payload with. -/
def DispatchError.IsResponse (error : DispatchError) : Prop :=
  ∃ message payload, error = .device (.response message payload)

/-- These are the errors that something can be shown of. -/
theorem DispatchError.payload?_eq_some_iff {error : DispatchError} {payload : Json} :
    error.payload? = some payload ↔ ∃ message, error = .device (.response message payload) := by
  constructor
  · intro h
    cases error with
    | device error =>
      cases error with
      | response message payload' =>
        cases h
        exact ⟨message, rfl⟩
      | communication message => cases h
    | usage error | wiring error | other message causes => cases h
  · rintro ⟨message, rfl⟩
    rfl

namespace Output

/-- What JSON output makes of the rest of a call. -/
inductive Shown (pretty : Bool) (inner : Call δ) : Call δ → Prop where
  /-- The outcome is shown behind all that the rest emitted. -/
  | outcome {outcome : Outcome} : inner.result = .ok outcome →
      Shown pretty inner ⟨inner.device, inner.arguments,
        inner.events ++ [.line (encode pretty outcome.toJson)], .ok outcome⟩
  /-- So is what came with the error of a device, and the call ends with it. -/
  | payload {message : String} {payload : Json} :
      inner.result = .error (.device (.response message payload)) →
      Shown pretty inner ⟨inner.device, inner.arguments,
        inner.events ++ [.line (encode pretty payload)], .ok (.value payload)⟩
  /-- Any other error stays as it is. -/
  | error {error : DispatchError} : inner.result = .error error → ¬ error.IsResponse →
      Shown pretty inner inner

/-- **JSON output shows one value or passes on an error.** -/
theorem shown_around (pretty : Bool) (rest : Rest δ) (arguments : Arguments) (device : δ) :
    Shown pretty (rest arguments device)
      ((json pretty).layer.around rest arguments device) := by
  have hcall : (json pretty).layer.around rest arguments device
      = ((showJson pretty (rest arguments device).arguments (rest arguments device).result).run rest
          (rest arguments device).device).after (rest arguments device).events := rfl
  rw [hcall]
  generalize rest arguments device = inner
  obtain ⟨device, arguments, events, result⟩ := inner
  dsimp only
  cases result with
  | ok outcome =>
    rw [showJson, outcome.structured_eq]
    exact .outcome rfl
  | error error =>
    cases hpayload : error.payload? with
    | some payload =>
      obtain ⟨message, rfl⟩ := DispatchError.payload?_eq_some_iff.1 hpayload
      exact .payload rfl
    | none =>
      have hresponse : ¬ error.IsResponse := by
        rintro ⟨message, payload, rfl⟩
        cases hpayload
      have hend : ((showJson pretty arguments (.error error)).run rest device).after events
          = ⟨device, arguments, events, .error error⟩ := by
        simp [showJson, hpayload, Course.run, Call.ended, Call.after]
      rw [hend]
      exact .error rfl hresponse

namespace Shown

variable {pretty : Bool} {inner call : Call δ}

theorem device_eq (h : Shown pretty inner call) : call.device = inner.device := by
  cases h <;> rfl

theorem events_of_ok (h : Shown pretty inner call) {outcome : Outcome}
    (hcall : call.result = .ok outcome) :
    call.events = inner.events ++ [.line (encode pretty outcome.toJson)] := by
  cases h with
  | outcome hinner =>
    cases hcall
    rfl
  | payload hinner =>
    cases hcall
    rfl
  | error hinner hresponse =>
    rw [hinner] at hcall
    cases hcall

theorem result_of_ok (h : Shown pretty inner call) {outcome : Outcome}
    (hok : inner.result = .ok outcome) : call.result = .ok outcome := by
  cases h with
  | outcome hinner => rwa [hinner] at hok
  | payload hinner =>
    rw [hinner] at hok
    cases hok
  | error hinner hresponse => exact hok

/-- **What came with the error of a device** is the value of the call. -/
theorem exists_of_response (h : Shown pretty inner call) {message : String} {payload : Json}
    (herror : inner.result = .error (.device (.response message payload))) :
    ∃ outcome, call.result = .ok outcome ∧ outcome.toJson = payload := by
  cases h with
  | outcome hinner =>
    rw [hinner] at herror
    cases herror
  | @payload message' payload' hinner =>
    rw [hinner] at herror
    cases herror
    exact ⟨.value payload, rfl, rfl⟩
  | error hinner hresponse =>
    rw [hinner] at herror
    cases herror
    exact absurd ⟨message, payload, rfl⟩ hresponse

theorem of_error (h : Shown pretty inner call) {error : DispatchError}
    (hcall : call.result = .error error) :
    inner.result = .error error ∧ ¬ error.IsResponse ∧ call.events = inner.events := by
  cases h with
  | outcome hinner => cases hcall
  | payload hinner => cases hcall
  | error hinner hresponse =>
    have herror := hcall
    rw [hinner] at herror
    cases herror
    exact ⟨hcall, hresponse, rfl⟩

end Shown

end Output

end Switchboard
