import Switchboard.Proofs.Device.Requests

/-!
# A simulated device is a store

A simulated device has names of properties that are there from the start, and under each of them a
value that requests write and read. Which property a request is about is found in the text of its
method, and what it brings in parameters of any shape; many requests are refused, and reading one
property is a request too.

`get?_run` says what one request does under every name. By induction each name holds, after any
requests, what the last of them that wrote to it and was not refused brought (`get?_after`), and how
a device answers is a matter of what it holds (`isStore`).
-/

namespace Switchboard

namespace Simulator

/-! ## What is written and read -/

/-- What parameters bring to be written. -/
inductive Brings : Json → Json → Prop where
  /-- An array brings its first element, whatever that is. -/
  | first (value : Json) (values : List Json) : Brings (.array (value :: values)) value
  /-- Any other value but null brings itself. -/
  | itself {value : Json} : (∀ values, value ≠ .array values) → value ≠ .null → Brings value value

theorem brings_iff {params value : Json} :
    Brings params value ↔ writtenValue? params = some value := by
  constructor
  · intro h
    cases h with
    | first value values => rfl
    | itself harray hnull =>
      cases params with
      | array values => exact absurd rfl (harray values)
      | null => exact absurd rfl hnull
      | _ => rfl
  · intro h
    unfold writtenValue? at h
    split at h
    · next items =>
      cases items with
      | nil => cases h
      | cons first values =>
        cases h
        exact .first value values
    · cases h
    · next harray hnull =>
      cases h
      exact .itself harray hnull

/-- The methods that write are those named after a property. -/
theorem written?_eq_some_iff {method name : String} :
    written? method = some name ↔ method = "set_" ++ name := by
  constructor
  · intro h
    unfold written? at h
    split at h
    · next rest hmethod =>
      have hname : name.toList = rest := by
        rw [← Option.some.inj h, String.toList_ofList]
      rw [← String.toList_inj, hmethod, String.toList_append, hname]
      rfl
    · cases h
  · rintro rfl
    have hmethod : ("set_" ++ name).toList = 's' :: 'e' :: 't' :: '_' :: name.toList :=
      String.toList_append
    unfold written?
    rw [hmethod]
    exact congrArg some String.ofList_toList

theorem asked?_eq_some_iff {method name : String} {params value : Json} :
    asked? method params = some (name, value) ↔ method = "set_" ++ name ∧ Brings params value := by
  unfold asked?
  rw [Option.bind_eq_some_iff]
  constructor
  · rintro ⟨name', hname, h⟩
    obtain ⟨value', hvalue, heq⟩ := Option.map_eq_some_iff.1 h
    cases heq
    exact ⟨written?_eq_some_iff.1 hname, brings_iff.2 hvalue⟩
  · rintro ⟨hmethod, hbrings⟩
    refine ⟨name, written?_eq_some_iff.2 hmethod, ?_⟩
    rw [brings_iff.1 hbrings]
    rfl

/-- The entry of an answer for what is asked of: the value under a name, and null for an unknown
name and for what is no name. -/
def shown (held? : String → Option Json) : Json → Json
  | .string name => (held? name).getD .null
  | _ => .null

theorem read_eq_shown (s : Simulator) (entry : Json) :
    s.read entry = shown (Entries.get? · s.properties) entry := by
  cases entry <;> rfl

/-! ## Requests in turn -/

/-- A request, or the reading of one property. -/
inductive Action where
  | send (method : String) (params : Json)
  | getProperty (name : String)

/-- What a device and its answer are after an action. -/
def Action.run : Action → Simulator → Answered Simulator Json
  | .send method params => fun s => s.send method params
  | .getProperty name => fun s => s.getProperty name

/-- A device after actions in turn. -/
def after : List Action → Simulator → Simulator
  | [], s => s
  | action :: actions, s => after actions (action.run s).1

/-- An action with its answer. -/
abbrev Exchange := Action × Except DeviceError Json

/-- Actions in turn with their answers. -/
def exchanges : List Action → Simulator → List Exchange
  | [], _ => []
  | action :: actions, s => (action, (action.run s).2) :: exchanges actions (action.run s).1

/-- What an exchange wrote under a name: what a request to write to it brought, unless that was
refused. -/
def wrote? (name : String) : Exchange → Option Json
  | (.send method params, .ok _) => if method = "set_" ++ name then writtenValue? params else none
  | _ => none

/-- What is under a name after exchanges: what was written to it last, else what was there. Nothing
is ever under another name. -/
def heldAfter? (initial : Entries Json) (history : List Exchange) (name : String) : Option Json :=
  (Entries.get? name initial).map fun value =>
    (history.filterMap (wrote? name)).getLast?.getD value

/-- A device refuses an action with a payload, and stays as it is. -/
def Refuses (s : Simulator) (action : Action) (payload : Json) : Prop :=
  ∃ message, action.run s = (s, .error (.response message payload))

/-! ## One request -/

theorem getProperty_eq (name : String) (s : Simulator) :
    s.getProperty name = (s, .ok ((Entries.get? name s.properties).getD .null)) := rfl

/-- **What a request does under every name**: it leaves there what it wrote, else what was there. -/
theorem get?_send (method : String) (params : Json) (s : Simulator) (name : String) :
    Entries.get? name (s.send method params).1.properties
      = (Entries.get? name s.properties).map
          (wrote? name (.send method params, (s.send method params).2)).getD := by
  rcases s.send_cases method params with ⟨name', value, hasked, hthere, hsend⟩ |
    ⟨hunasked, ⟨answer, -, hsend⟩ | ⟨error, -, hsend⟩⟩
  · obtain ⟨hmethod, hbrings⟩ := asked?_eq_some_iff.1 hasked
    obtain ⟨old, hold⟩ := Option.isSome_iff_exists.1 hthere
    rw [hsend]
    dsimp only [withProperty, wrote?]
    rw [Entries.get?_insert, brings_iff.1 hbrings]
    by_cases hname : name' = name
    · subst hname
      rw [if_pos rfl, if_pos hmethod, hold]
      rfl
    · -- a method writes under one name only
      have hother : ¬ method = "set_" ++ name := fun h =>
        hname (Option.some.inj ((written?_eq_some_iff.2 hmethod).symm.trans
          (written?_eq_some_iff.2 h)))
      rw [if_neg hname, if_neg hother]
      exact Option.map_id'.symm
  · rw [hsend]
    dsimp only [wrote?]
    cases hold : Entries.get? name s.properties with
    | none => rfl
    | some old =>
      have hnone : (if method = "set_" ++ name then writtenValue? params else none) = none := by
        split
        · next hmethod =>
          -- what it brought would have been written, as there is something under the name
          cases hvalue : writtenValue? params with
          | none => rfl
          | some value =>
            have hnot := hunasked name value
              (asked?_eq_some_iff.2 ⟨hmethod, brings_iff.2 hvalue⟩)
            rw [hold] at hnot
            cases hnot
        · rfl
      rw [hnone]
      rfl
  · rw [hsend]
    exact Option.map_id'.symm

theorem get?_run (action : Action) (s : Simulator) (name : String) :
    Entries.get? name (action.run s).1.properties
      = (Entries.get? name s.properties).map (wrote? name (action, (action.run s).2)).getD := by
  cases action with
  | send method params => exact s.get?_send method params name
  | getProperty other => exact Option.map_id'.symm

/-- No request changes what a device is. -/
theorem identity_run (action : Action) (s : Simulator) :
    (action.run s).1.model = s.model ∧ (action.run s).1.firmware = s.firmware := by
  cases action with
  | getProperty name => exact ⟨rfl, rfl⟩
  | send method params =>
    show (s.send method params).1.model = _ ∧ (s.send method params).1.firmware = _
    rcases s.send_cases method params with ⟨name, value, -, -, hsend⟩ |
      ⟨-, ⟨answer, -, hsend⟩ | ⟨error, -, hsend⟩⟩ <;>
    · rw [hsend]
      exact ⟨rfl, rfl⟩

/-- An action that fails leaves the device as it is. -/
theorem run_of_error {action : Action} {s : Simulator} {error : DeviceError}
    (h : (action.run s).2 = .error error) : (action.run s).1 = s := by
  cases action with
  | getProperty name => rfl
  | send method params =>
    show (s.send method params).1 = s
    have hanswer : (s.send method params).2 = .error error := h
    rcases s.send_cases method params with ⟨name, value, -, -, hsend⟩ |
      ⟨-, ⟨answer, -, hsend⟩ | ⟨error', -, hsend⟩⟩
    · rw [hsend] at hanswer
      cases hanswer
    · rw [hsend]
    · rw [hsend]

/-! ## Stores -/

/-- A device that answers as a store does, which tells of itself and holds values under names. -/
structure IsStore (s : Simulator) (tells : Json) (held? : String → Option Json) : Prop where
  /-- The device holds what the store does. -/
  holds : ∀ name, Entries.get? name s.properties = held? name
  /-- It tells what it is, whatever the parameters are. -/
  info : ∀ params, s.send "info" params = (s, .ok tells)
  /-- An array is answered entry by entry. -/
  reads : ∀ entries, s.send "get_prop" (.array entries)
    = (s, .ok (.array (entries.map (shown held?))))
  /-- Nothing but an array is answered. -/
  readsArrays : ∀ params, (∀ entries, params ≠ .array entries) →
    s.Refuses (.send "get_prop" params) (payload invalidParams "Invalid params")
  /-- What is brought for a name that there is, is written there and nowhere else. -/
  writes : ∀ name params value, (held? name).isSome = true → Brings params value →
    (s.send ("set_" ++ name) params).2 = .ok (.array [.string "ok"])
      ∧ ∀ other, Entries.get? other (s.send ("set_" ++ name) params).1.properties
        = if other = name then some value else held? other
  /-- Something must be brought. -/
  writesValues : ∀ name params, (held? name).isSome = true → (∀ value, ¬ Brings params value) →
    s.Refuses (.send ("set_" ++ name) params) (payload invalidParams "Invalid params")
  /-- Any other method is unknown, also one that would write under a name that there is not. -/
  unknown : ∀ method params, method ≠ "info" → method ≠ "get_prop" →
    (∀ name, (held? name).isSome = true → method ≠ "set_" ++ name) →
    s.Refuses (.send method params) (payload methodNotFound "Method not found")
  /-- What fails changes nothing. -/
  failing : ∀ (action : Action) (error : DeviceError), (action.run s).2 = .error error →
    (action.run s).1 = s
  /-- The reading of one property never fails. -/
  gets : ∀ name, s.getProperty name = (s, .ok ((held? name).getD .null))

/-- A request that would write to a property that there is writes what it brings. -/
theorem send_set (s : Simulator) {name : String}
    (hthere : (Entries.get? name s.properties).isSome = true) (params : Json) :
    s.send ("set_" ++ name) params = s.write ("set_" ++ name) name params := by
  have hwritten : written? ("set_" ++ name) = some name := written?_eq_some_iff.2 rfl
  have hinfo : ¬ "set_" ++ name = "info" := by
    intro h
    rw [h] at hwritten
    cases hwritten
  have hgetProp : ¬ "set_" ++ name = "get_prop" := by
    intro h
    rw [h] at hwritten
    cases hwritten
  unfold send
  rw [if_neg hinfo, if_neg hgetProp, hwritten, Option.filter_some_pos (by exact hthere)]

/-- **A device is a store** of what it holds. -/
theorem isStore (s : Simulator) : s.IsStore s.identity (Entries.get? · s.properties) where
  holds _ := rfl
  info _ := rfl
  reads entries := by
    have hentries : entries.map s.read = entries.map (shown (Entries.get? · s.properties)) :=
      List.map_congr_left fun entry _ => s.read_eq_shown entry
    rw [← hentries]
    rfl
  readsArrays params hparams := by
    cases params with
    | array entries => exact absurd rfl (hparams entries)
    | _ => exact ⟨_, rfl⟩
  writes name params value hthere hbrings := by
    have hwrite : s.send ("set_" ++ name) params
        = (s.withProperty name value, .ok (.array [.string "ok"])) := by
      rw [s.send_set hthere, write, brings_iff.1 hbrings]
    rw [hwrite]
    refine ⟨rfl, fun other => ?_⟩
    show Entries.get? other (Entries.insert name value s.properties) = _
    rw [Entries.get?_insert]
    by_cases hother : name = other
    · rw [if_pos hother, if_pos hother.symm]
    · rw [if_neg hother, if_neg fun h => hother h.symm]
  writesValues name params hthere hnothing := by
    have hnone : writtenValue? params = none :=
      Option.eq_none_iff_forall_ne_some.2 fun value h => hnothing value (brings_iff.2 h)
    have hrefused : s.send ("set_" ++ name) params
        = (s, .error (invalidParamsError ("set_" ++ name) params)) := by
      rw [s.send_set hthere, write, hnone]
    exact ⟨_, hrefused⟩
  unknown method params hinfo hgetProp hset := by
    have hnone : ((written? method).filter fun name =>
        (Entries.get? name s.properties).isSome) = none := by
      refine Option.filter_eq_none_iff.2 fun name hwritten hthere => ?_
      exact hset name hthere (written?_eq_some_iff.1 hwritten)
    have hrefused : s.send method params = (s, .error (unknownMethodError method)) := by
      unfold send
      rw [if_neg hinfo, if_neg hgetProp, hnone]
    exact ⟨_, hrefused⟩
  failing _ _ h := run_of_error h
  gets name := s.getProperty_eq name

/-! ## After any requests -/

theorem heldAfter?_cons (s : Simulator) (action : Action) (history : List Exchange) :
    heldAfter? s.properties ((action, (action.run s).2) :: history)
      = heldAfter? (action.run s).1.properties history := by
  funext name
  unfold heldAfter?
  rw [get?_run, Option.map_map, List.filterMap_cons]
  congr 1
  funext value
  cases wrote? name (action, (action.run s).2) with
  | none => rfl
  | some written =>
    dsimp only [Function.comp]
    rw [List.getLast?_cons]
    rfl

/-- **Each name holds what was written to it last.** -/
theorem get?_after (actions : List Action) (s : Simulator) (name : String) :
    Entries.get? name (s.after actions).properties
      = heldAfter? s.properties (exchanges actions s) name := by
  induction actions generalizing s with
  | nil =>
    exact Option.map_id'.symm
  | cons action actions ih =>
    rw [exchanges, heldAfter?_cons]
    exact ih (action.run s).1

theorem identity_after (actions : List Action) (s : Simulator) :
    (s.after actions).identity = s.identity := by
  induction actions generalizing s with
  | nil => rfl
  | cons action actions ih =>
    obtain ⟨hmodel, hfirmware⟩ := identity_run action s
    have hstep : (action.run s).1.identity = s.identity := by
      rw [identity, hmodel, hfirmware, identity]
    exact (ih (action.run s).1).trans hstep

/--
**A simulated device is a store with fixed names.**

Let a device of any model and firmware, with any properties, be sent any requests, and any of its
properties be read. It then has properties of the same names and tells the same of itself. It
answers as a store does (`IsStore`), and that store holds under each of the names what the last
request that wrote to it brought, unless that was refused, or what was there at first.
-/
theorem isStore_after (s : Simulator) (actions : List Action) :
    (∀ name, name ∈ Entries.names (s.after actions).properties
        ↔ name ∈ Entries.names s.properties)
      ∧ (s.after actions).IsStore s.identity (heldAfter? s.properties (exchanges actions s)) := by
  have hheld : (Entries.get? · (s.after actions).properties)
      = heldAfter? s.properties (exchanges actions s) := funext (get?_after actions s)
  constructor
  · intro name
    rw [← Entries.get?_isSome_iff, ← Entries.get?_isSome_iff, get?_after, heldAfter?,
      Option.isSome_map]
  · rw [← hheld, ← identity_after actions s]
    exact (s.after actions).isStore

/-- A device is sent three requests, of which two are refused. -/
theorem isStore_after_refusals :
    let s := (ofIdentity "acme.plug.v1" "1.2.4").withProperty "power" (.string "off")
    let s' := s.after [.send "set_power" (.array [.string "on"]), .send "set_power" (.array []),
      .send "set_color" (.array [.string "red"])]
    s'.send "get_prop" (.array [.string "power", .string "missing", .bool true])
      = (s', .ok (.array [.string "on", .null, .null])) := by
  intro s s'
  exact (isStore_after s _).2.reads _

end Simulator

end Switchboard
