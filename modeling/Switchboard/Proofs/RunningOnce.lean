import Switchboard.Device.Plug
import Switchboard.Proofs.Dispatch

/-!
# Running once

A command can be run on a device that is connected for it alone, or in a session. The two ways look
a command up, check the connection and call the command, each in an order of its own: a session is
connected before it is known what will be run in it, while running once looks the command up first.

So where something is amiss it matters which way was taken, and what is found amiss first is the
error (`invoke_fault`); where nothing is amiss there is no difference (`invoke_eq_run`).
-/

namespace Switchboard

variable {δ : Type}

/-! ## What may be amiss with a connection -/

namespace Connection

/-- What is amiss with a connection: the address before the token. -/
inductive Fault (c : Connection) : UsageError → Prop where
  | address : ¬ Address.IsAddress c.address →
      Fault c (.invalidAddress c.address "invalid IP address syntax")
  | token : Address.IsAddress c.address → c.token.length ≠ 32 →
      Fault c (.invalidToken 32 c.token.length)

/-- A connection with nothing amiss. -/
structure Sound (c : Connection) : Prop where
  address : Address.IsAddress c.address
  token : c.token.length = 32

theorem sound_or_fault (c : Connection) : c.Sound ∨ ∃ error, c.Fault error := by
  by_cases haddress : Address.IsAddress c.address
  · by_cases htoken : c.token.length = 32
    · exact Or.inl ⟨haddress, htoken⟩
    · exact Or.inr ⟨_, .token haddress htoken⟩
  · exact Or.inr ⟨_, .address haddress⟩

theorem Sound.validate {c : Connection} (h : c.Sound) : c.validate = .ok () := by
  have haddress : Address.parse c.address = .ok c.address := if_pos h.address
  have htoken : Token.parse c.token = .ok c.token := if_pos h.token
  rw [Connection.validate, haddress, htoken]
  rfl

theorem Fault.validate {c : Connection} {error : UsageError} (h : c.Fault error) :
    c.validate = .error error := by
  cases h with
  | address haddress =>
    have hparse : Address.parse c.address
        = .error (.invalidAddress c.address "invalid IP address syntax") := if_neg haddress
    rw [Connection.validate, hparse]
    rfl
  | token haddress htoken =>
    have hparse : Address.parse c.address = .ok c.address := if_pos haddress
    have hlength : Token.parse c.token = .error (.invalidToken 32 c.token.length) := if_neg htoken
    rw [Connection.validate, hparse, hlength]
    rfl

end Connection

/-! ## The two ways -/

namespace Group

/-- What is amiss when a command is to be run once: the command before the connection. -/
inductive Fault (g : Group δ) (connection : Connection) (command : String) : UsageError → Prop where
  | command : g.registry.contains command = false →
      Fault g connection command (.unknownCommand command)
  | connection {error : UsageError} : g.registry.contains command = true →
      connection.Fault error → Fault g connection command error

/-- The same group with another way to connect to devices. -/
def connecting (g : Group δ) (connect : Connection → δ) : Group δ :=
  { g with type := { g.type with connect } }

theorem resolve_of_not_contains {g : Group δ} {command : String}
    (h : g.registry.contains command = false) (context : Context) :
    g.resolve command context = .error (.usage (.unknownCommand command)) := by
  have hnone : g.registry.get? command = none := by
    rw [← Option.not_isSome_iff_eq_none]
    exact Bool.eq_false_iff.1 h
  rw [resolve, hnone]

/-- **Running once ends with what is found amiss first**, whatever it is and whatever connecting
would have given. -/
theorem invoke_fault {g : Group δ} {connection : Connection} {command : String} {error : UsageError}
    (h : g.Fault connection command error) (context : Context) (arguments : Arguments) :
    g.invoke context connection command arguments
      = .ended none arguments (.error (.usage error)) := by
  cases h with
  | command hcommand => rw [invoke, resolve_of_not_contains hcommand]
  | connection hcommand hconnection =>
    obtain ⟨d, hd⟩ := Option.isSome_iff_exists.1 hcommand
    have hconnect : g.connect context connection = .error (.usage error) := by
      rw [connect, hconnection.validate]
    rw [invoke, resolve_of_get? hd, hconnect]

/-- **With nothing amiss running once is a session with one run.** -/
theorem invoke_eq_run {g : Group δ} {connection : Connection} {command : String}
    (hcommand : g.registry.contains command = true) (hconnection : connection.Sound)
    (context : Context) (arguments : Arguments) :
    ∃ session, g.connect context connection = .ok session
      ∧ g.invoke context connection command arguments
        = (session.run command arguments).onDevice some := by
  obtain ⟨d, hd⟩ := Option.isSome_iff_exists.1 hcommand
  refine ⟨_, connect_of_validate hconnection.validate context, ?_⟩
  rw [invoke_eq hd hconnection.validate, Session.run, resolve_of_get? hd]

/--
**Running once and running in a session agree.**

A command that there is, on a connection with a valid address and a token of the right length, is
run once as it is run first in a session: the result, the events, the arguments and the device are
the same. A command that there is not is reported by its name, whatever the connection is; else an
address that is none is reported, whatever the token is; else a token of another length. In these
cases there is no device, nothing is emitted, the arguments are as they were, and what connecting to
a device would have given makes no difference.
-/
theorem invoke_agrees (g : Group δ) (context : Context) (connection : Connection)
    (command : String) (arguments : Arguments) :
    let call := g.invoke context connection command arguments
    let known := g.registry.contains command = true
    let addressed := Address.IsAddress connection.address
    let trusted := connection.token.length = 32
    (known → addressed → trusted → ∃ session, g.connect context connection = .ok session
        ∧ let run := session.run command arguments
          call.result = run.result ∧ call.events = run.events ∧ call.arguments = run.arguments
            ∧ call.device = some run.device)
      ∧ (¬ known → call.result = .error (.usage (.unknownCommand command)))
      ∧ (known → ¬ addressed → call.result
          = .error (.usage (.invalidAddress connection.address "invalid IP address syntax")))
      ∧ (known → addressed → ¬ trusted →
          call.result = .error (.usage (.invalidToken 32 connection.token.length)))
      ∧ (¬ (known ∧ addressed ∧ trusted) →
          call.device = none ∧ call.events = [] ∧ call.arguments = arguments
            ∧ ∀ connect : Connection → δ,
              (g.connecting connect).invoke context connection command arguments = call) := by
  intro call known addressed trusted
  have hfault {error : UsageError} (h : g.Fault connection command error) :
      call = .ended none arguments (.error (.usage error)) := invoke_fault h context arguments
  have hunknown (h : ¬ known) : g.Fault connection command (.unknownCommand command) :=
    .command ((Bool.not_eq_true _).mp h)
  refine ⟨fun hknown haddress htoken => ?_, fun h => ?_, fun hknown h => ?_,
    fun hknown haddress h => ?_, fun h => ?_⟩
  · obtain ⟨session, hconnect, hcall⟩ :=
      invoke_eq_run hknown ⟨haddress, htoken⟩ context arguments
    refine ⟨session, hconnect, ?_⟩
    dsimp only [call]
    rw [hcall]
    exact ⟨rfl, rfl, rfl, rfl⟩
  · rw [hfault (hunknown h)]
    rfl
  · rw [hfault (.connection hknown (.address h))]
    rfl
  · rw [hfault (.connection hknown (.token haddress h))]
    rfl
  · -- whatever is amiss, it is the same for every way to connect
    obtain ⟨error, herror⟩ : ∃ error, g.Fault connection command error := by
      by_cases hknown : known
      · rcases connection.sound_or_fault with hsound | ⟨error, hconnection⟩
        · exact absurd ⟨hknown, hsound.address, hsound.token⟩ h
        · exact ⟨error, .connection hknown hconnection⟩
      · exact ⟨_, hunknown hknown⟩
    rw [hfault herror]
    refine ⟨rfl, rfl, rfl, fun connect => ?_⟩
    have hother : (g.connecting connect).Fault connection command error := by
      cases herror with
      | command hcommand => exact .command hcommand
      | connection hcommand hconnection => exact .connection hcommand hconnection
    exact invoke_fault hother context arguments

/-- Plugs: one is switched on; then ever less is amiss, and what is left of it is the error. -/
theorem invoke_agrees_plug :
    let g : Group Plug := ⟨Plug.type, Plug.registry⟩
    let token := "00112233445566778899aabbccddeeff"
    let result := fun address token command =>
      (g.invoke ⟨0, none⟩ ⟨address, token, none, 0⟩ command []).result
    (∃ session, g.connect ⟨0, none⟩ ⟨"::1", token, none, 0⟩ = .ok session
        ∧ result "::1" token "on" = (session.run "on" []).result)
      ∧ result "10.0.0" "short" "dim" = .error (.usage (.unknownCommand "dim"))
      ∧ result "10.0.0" "short" "on"
        = .error (.usage (.invalidAddress "10.0.0" "invalid IP address syntax"))
      ∧ result "::1" "short" "on" = .error (.usage (.invalidToken 32 5)) := by
  intro g token result
  have hon : g.registry.contains "on" = true := rfl
  have hdim : ¬ g.registry.contains "dim" = true := Bool.false_ne_true
  have hvalid : Address.IsAddress "::1" := by decide
  have hinvalid : ¬ Address.IsAddress "10.0.0" := by decide
  have hshort : ¬ "short".length = 32 := by decide
  obtain ⟨hagrees, -⟩ := invoke_agrees g ⟨0, none⟩ ⟨"::1", token, none, 0⟩ "on" []
  obtain ⟨-, hunknown, -⟩ := invoke_agrees g ⟨0, none⟩ ⟨"10.0.0", "short", none, 0⟩ "dim" []
  obtain ⟨-, -, haddress, -⟩ := invoke_agrees g ⟨0, none⟩ ⟨"10.0.0", "short", none, 0⟩ "on" []
  obtain ⟨-, -, -, htoken, -⟩ := invoke_agrees g ⟨0, none⟩ ⟨"::1", "short", none, 0⟩ "on" []
  obtain ⟨session, hconnect, hresult, -⟩ := hagrees hon hvalid (by decide)
  exact ⟨⟨session, hconnect, hresult⟩, hunknown hdim, haddress hon hinvalid,
    htoken hon hvalid hshort⟩

end Group

end Switchboard
