import Switchboard.Composed
import Switchboard.Proofs.Course
import Switchboard.Proofs.Registries

/-!
# Requests to simulated devices

What a simulated device answers, and what the device types make of it. A request is accepted or
refused, and a refusal carries a payload; a device that is simulated is never out of reach. So a
question that is made up of requests a device always accepts has an answer (`queryInfo_eq`,
`status_eq`, `propertyValues_eq`), and where a request may be refused, the refusal is all that can
come back.
-/

namespace Switchboard

/-! ## What a request does -/

namespace Simulator

/-- What a request asks to write: the name of a property and a value. -/
def asked? (method : String) (params : Json) : Option (String × Json) :=
  (written? method).bind fun name => (writtenValue? params).map (name, ·)

/-- Whether a value is what a device sends along with a refusal: a code and a text. -/
def isPayload : Json → Bool
  | .object [(code, .number (.int _)), (message, .string _)] =>
    code = "code" && message = "message"
  | _ => false

/-- A refusal: an error with a code and a text as its payload. -/
def IsRefusal (error : DeviceError) : Prop :=
  ∃ message code text, error = .response message (payload code text)

theorem isRefusal_invalidParamsError (method : String) (params : Json) :
    IsRefusal (invalidParamsError method params) := ⟨_, _, _, rfl⟩

theorem isRefusal_unknownMethodError (method : String) : IsRefusal (unknownMethodError method) :=
  ⟨_, _, _, rfl⟩

theorem isPayload_of_isRefusal {error : DeviceError} (h : IsRefusal error) :
    ∃ payload, error.payload? = some payload ∧ isPayload payload = true := by
  obtain ⟨message, code, text, rfl⟩ := h
  exact ⟨_, rfl, rfl⟩

/-- A method that is not named like a writing one asks to write nothing. -/
theorem asked?_of_written? {method : String} (h : written? method = none) (params : Json) :
    asked? method params = none := by
  rw [asked?, h]
  rfl

theorem write_cases (method name : String) (params : Json) (s : Simulator) :
    (∃ value, writtenValue? params = some value
        ∧ s.write method name params = (s.withProperty name value, .ok (.array [.string "ok"])))
      ∨ (writtenValue? params = none
        ∧ ∃ error, IsRefusal error ∧ s.write method name params = (s, .error error)) := by
  unfold write
  cases writtenValue? params with
  | some value => exact Or.inl ⟨value, rfl, rfl⟩
  | none => exact Or.inr ⟨rfl, _, isRefusal_invalidParamsError method params, rfl⟩

/-- **What a request does**: it writes what it asks to write, where there is such a property; else
it changes nothing, and is answered or refused. -/
theorem send_cases (method : String) (params : Json) (s : Simulator) :
    (∃ name value, asked? method params = some (name, value)
        ∧ (Entries.get? name s.properties).isSome = true
        ∧ s.send method params = (s.withProperty name value, .ok (.array [.string "ok"])))
      ∨ (∀ name value, asked? method params = some (name, value) →
          Entries.get? name s.properties = none)
        ∧ ((∃ v, isPayload v = false ∧ s.send method params = (s, .ok v))
          ∨ ∃ error, IsRefusal error ∧ s.send method params = (s, .error error)) := by
  have hunasked (hasked : asked? method params = none) : ∀ name value,
      asked? method params = some (name, value) → Entries.get? name s.properties = none := by
    intro name value hsome
    rw [hasked] at hsome
    cases hsome
  unfold send
  split
  · next hinfo =>
    subst hinfo
    exact Or.inr ⟨hunasked rfl, Or.inl ⟨s.identity, rfl, rfl⟩⟩
  split
  · next hgetProp =>
    subst hgetProp
    refine Or.inr ⟨hunasked (asked?_of_written? rfl params), ?_⟩
    cases params with
    | array names => exact Or.inl ⟨_, rfl, rfl⟩
    | _ => exact Or.inr ⟨_, isRefusal_invalidParamsError _ _, rfl⟩
  -- only a method that is named like one that writes is left, or an unknown one
  cases hwritten : written? method with
  | none =>
    refine Or.inr ⟨hunasked (asked?_of_written? hwritten params), Or.inr ?_⟩
    exact ⟨_, isRefusal_unknownMethodError method, rfl⟩
  | some name =>
    cases hthere : (Entries.get? name s.properties).isSome with
    | false =>
      -- without such a property the method is as unknown as any other
      rw [Option.filter_some_neg (by simp [hthere])]
      refine Or.inr ⟨?_, Or.inr ⟨_, isRefusal_unknownMethodError method, rfl⟩⟩
      intro name' value hasked
      rw [asked?, hwritten] at hasked
      obtain ⟨value', -, heq⟩ := Option.map_eq_some_iff.1 hasked
      cases heq
      exact Option.not_isSome_iff_eq_none.1 (by rw [hthere]; exact Bool.false_ne_true)
    | true =>
      rw [Option.filter_some_pos (by simp [hthere])]
      rcases s.write_cases method name params with ⟨value, hvalue, hwrite⟩ | ⟨hvalue, hwrite⟩
      · refine Or.inl ⟨name, value, ?_, hthere, hwrite⟩
        rw [asked?, hwritten, Option.bind_some, hvalue]
        rfl
      · refine Or.inr ⟨hunasked ?_, Or.inr hwrite⟩
        rw [asked?, hwritten, Option.bind_some, hvalue]
        rfl

end Simulator

/-! ## What is known of the answers -/

/-- An answer is the same, whatever is seen of the device. -/
theorem Call.onDevice_ofAnswer {δ ε α : Type} (view : δ → ε) (arguments : Arguments)
    (outcome : α → Outcome) (answered : Answered δ α) :
    (Call.ofAnswer arguments outcome answered).onDevice view
      = .ofAnswer arguments outcome (view answered.1, answered.2) := by
  obtain ⟨device, _ | _⟩ := answered
  · rfl
  · rfl

namespace GenericDevice

/-- What a device tells of itself. -/
def tellsInfo (d : GenericDevice) : DeviceInfo :=
  ⟨d.transport.model, d.transport.firmware, "simulated", d.connection.address⟩

/-- A simulated device always tells what it is. -/
theorem queryInfo_eq (d : GenericDevice) :
    d.queryInfo = (d.identify d.tellsInfo, .ok d.tellsInfo) := rfl

theorem isRefusal_of_send {method : String} {params : Json} {d : GenericDevice}
    {error : DeviceError} (h : (d.send method params).2 = .error error) :
    Simulator.IsRefusal error := by
  have hanswer : (d.transport.send method params).2 = .error error := h
  rcases d.transport.send_cases method params with ⟨name, value, -, -, hsend⟩ |
    ⟨-, ⟨v, -, hsend⟩ | ⟨error', hrefusal, hsend⟩⟩
  · rw [hsend] at hanswer
    cases hanswer
  · rw [hsend] at hanswer
    cases hanswer
  · rw [hsend] at hanswer
    cases hanswer
    exact hrefusal

/-- The command that sends any request, once it has a method. -/
theorem sendRaw_eq {arguments : Arguments} {method : String}
    (hmethod : Arguments.requireText "command" arguments = .ok method) (d : GenericDevice) :
    sendRaw arguments d
      = .ofAnswer arguments .value (d.send method
          ((Arguments.given? "parameters" arguments).getD (.array []))) := by
  unfold sendRaw
  rw [hmethod]

end GenericDevice

namespace Plug

/-- The properties of the device that a plug is reached through. -/
def properties (p : Plug) : Entries Json := p.base.transport.properties

/-- The values of three properties, those that make up the state. -/
def values (p : Plug) : List Json :=
  PlugStatus.properties.map fun name => p.base.transport.read (.string name)

theorem send_eq (method : String) (params : Json) (p : Plug) :
    p.send method params
      = (⟨{ p.base with transport := (p.base.transport.send method params).1 }⟩,
        (p.base.transport.send method params).2) := rfl

theorem isRefusal_of_send {method : String} {params : Json} {p : Plug} {error : DeviceError}
    (h : (p.send method params).2 = .error error) : Simulator.IsRefusal error :=
  GenericDevice.isRefusal_of_send h

/-- The command that sends any request sends it to the plug. -/
theorem lift_sendRaw {arguments : Arguments} {method : String}
    (hmethod : Arguments.requireText "command" arguments = .ok method) (p : Plug) :
    embedding.lift GenericDevice.sendRaw arguments p
      = .ofAnswer arguments .value (p.send method
          ((Arguments.given? "parameters" arguments).getD (.array []))) := by
  unfold Embedding.lift
  rw [GenericDevice.sendRaw_eq hmethod]
  exact Call.onDevice_ofAnswer (embedding.put · p) arguments .value _

theorem status_eq (p : Plug) : p.status = (p, PlugStatus.ofValues (.array p.values)) := rfl

theorem exists_status (p : Plug) : ∃ status, p.status = (p, .ok status) := ⟨_, rfl⟩

theorem exists_infoRows (p : Plug) :
    ∃ rows, p.infoRows = (⟨p.base.identify p.base.tellsInfo⟩, .ok rows) := ⟨_, rfl⟩

/-- Setting the light fails only where the request to set it is refused. -/
theorem isRefusal_of_led {state : Option String} {p : Plug} {error : DeviceError}
    (h : (p.led state).2 = .error error) : Simulator.IsRefusal error := by
  unfold led at h
  cases state with
  | none => cases h
  | some state =>
    dsimp only at h
    cases hsend : p.send "set_led" (.array [.string state]) with
    | mk p' answer =>
      rw [hsend] at h
      cases answer with
      | ok v =>
        obtain ⟨status, hstatus⟩ := p'.exists_status
        dsimp only at h
        rw [hstatus] at h
        cases h
      | error error' =>
        cases h
        exact isRefusal_of_send (congrArg Prod.snd hsend)

theorem propertyValues_eq (p : Plug) :
    p.propertyValues
      = (p, .ok (.object (Entries.ofList (PlugStatus.properties.zip p.values)))) := rfl

/-- The guard changes no property, and always lets the method start. -/
theorem core_eq (d : Descriptor Plug) (context : Context) (arguments : Arguments) (p : Plug) :
    ∃ p' : Plug, p'.properties = p.properties
      ∧ (Composed.compose d context).core type arguments p = d.method arguments p' := by
  unfold Composed.core Composed.autodetect
  split
  · dsimp only
    split
    · exact ⟨p, rfl, rfl⟩
    · exact ⟨⟨p.base.identify p.base.tellsInfo⟩, rfl, rfl⟩
  · exact ⟨p, rfl, rfl⟩

theorem transparent_of_get? {command : String} {d : Descriptor Plug}
    (hget : registry.get? command = some d) :
    ∀ layer ∈ d.decorators, ∃ name, layer = .transparent name := by
  rcases Assembly.cases_ofPlug hget with hown | rfl
  · rcases Assembly.cases_plugCommands hown with rfl | rfl | ⟨on, rfl⟩ | rfl | rfl <;>
      exact List.forall_mem_nil _
  · exact List.forall_mem_singleton.2 ⟨"timing", rfl⟩

end Plug

end Switchboard
