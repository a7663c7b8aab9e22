import Switchboard.Proofs.Hearing
import Switchboard.Sink

/-!
# Sinks that break

Writing never fails for the writer. A sink that has no more room loses what comes after, and the
command goes on as if nothing had happened: it gives the same outcome or error, and leaves the same
device and arguments. What the sink has taken by then are the first lines of what it would have
taken, as many as there was room for.

Lines come from all stages, before the call and after it, and some after an error. So the sink is
threaded through the call as a listener, which writes each line when it is emitted, and
`Composed.heardCall_sink` says for every sink at once what has become of it in the end.
-/

namespace Switchboard

variable {δ : Type}

/-! ## What a sink takes -/

namespace Sink

/-- Lines as they are written. -/
def bytesOf (lines : List String) : List UInt8 :=
  lines.flatMap fun line => (line ++ "\n").toUTF8.toList

theorem write_cons (event : Event) (events : List Event) (sink : Sink) :
    sink.write (event :: events) = (sink.write [event]).write events := by
  unfold write
  rw [← List.foldl_append, Event.lines, Event.lines, Event.lines, ← List.filterMap_append]
  rfl

theorem foldl_write (events : List Event) (sink : Sink) :
    events.foldl (fun sink event => sink.write [event]) sink = sink.write events := by
  induction events generalizing sink with
  | nil => rfl
  | cons event events ih => rw [List.foldl_cons, ih, ← write_cons]

/-- A sink takes the first lines, as many as it has room for. -/
theorem bytes_foldl_line (lines : List String) (bytes : List UInt8) (n : Nat) :
    (lines.foldl (fun (sink : Sink) text => sink.line text) ⟨bytes, some n⟩).bytes
      = bytes ++ bytesOf (lines.take n) := by
  induction lines generalizing bytes n with
  | nil => simp [bytesOf]
  | cons line lines ih =>
    cases n with
    | zero =>
      -- without room nothing changes, and there is none for the rest either
      have hrest := ih bytes 0
      rw [List.take_zero] at hrest ⊢
      exact hrest
    | succ n =>
      have hrest := ih (bytes ++ (line ++ "\n").toUTF8.toList) n
      rw [List.append_assoc] at hrest
      exact hrest

/-- Without a limit a sink takes every line. -/
theorem bytes_foldl_line_none (lines : List String) (bytes : List UInt8) :
    (lines.foldl (fun (sink : Sink) text => sink.line text) ⟨bytes, none⟩).bytes
      = bytes ++ bytesOf lines := by
  induction lines generalizing bytes with
  | nil => simp [bytesOf]
  | cons line lines ih =>
    have hrest := ih (bytes ++ (line ++ "\n").toUTF8.toList)
    rw [List.append_assoc] at hrest
    exact hrest

theorem bytes_write_limited (events : List Event) (n : Nat) :
    ((limited n).write events).bytes = bytesOf ((Event.lines events).take n) :=
  bytes_foldl_line (Event.lines events) [] n

theorem bytes_write_unlimited (events : List Event) :
    (unlimited.write events).bytes = bytesOf (Event.lines events) :=
  bytes_foldl_line_none (Event.lines events) []

/-- Writes each line when it is emitted, whichever stage it comes from. -/
def listener : Listener Sink where
  start := unlimited
  emitted _ event sink := sink.write [event]
  ended _ _ sink := sink

theorem records_listener : listener.Records id fun sink event => sink.write [event] where
  emitted _ _ _ := rfl
  ended _ _ _ := rfl

end Sink

/-! ## Commands that write -/

namespace Composed

/-- **A command that writes is the command**, and has written its events to the sink, whatever the
sink makes of them. -/
theorem heardCall_sink (d : Descriptor δ) (context : Context) (type : DeviceType δ)
    (arguments : Arguments) (device : δ) (sink : Sink) :
    let call := (compose d context).call type arguments device
    heardCall Sink.listener d context type arguments ⟨device, sink⟩
      = call.onDevice fun device => ⟨device, sink.write call.events⟩ := by
  intro call
  let written := heardCall Sink.listener d context type arguments ⟨device, sink⟩
  have hcall : written.onDevice Heard.device = call :=
    simulates_heardCall Sink.listener d context type arguments ⟨device, sink⟩
  have hsink : written.device.ear = sink.write written.events := by
    rw [← Sink.foldl_write]
    exact read_heardCall Sink.records_listener d context type arguments ⟨device, sink⟩
  rw [← hcall]
  dsimp only [Call.onDevice]
  rw [← hsink]

/--
**A broken sink never changes a command.**

Let a command write its lines as they come, once to a sink that takes them all, and once to a sink
that takes `n` of them and then refuses every line. The two calls end with the same outcome or
error, with the device and with the arguments in the same state, which are those of the call itself.
The first sink has taken the lines of the call, and the other the first `n` of these.
-/
theorem heardCall_limited (d : Descriptor δ) (context : Context) (type : DeviceType δ)
    (arguments : Arguments) (device : δ) (n : Nat) :
    let call := (compose d context).call type arguments device
    let sound := heardCall Sink.listener d context type arguments ⟨device, .unlimited⟩
    let broken := heardCall Sink.listener d context type arguments ⟨device, .limited n⟩
    let lines := Event.lines call.events
    (broken.result = sound.result ∧ broken.device.device = sound.device.device
        ∧ broken.arguments = sound.arguments)
      ∧ sound.onDevice Heard.device = call
      ∧ sound.device.ear.bytes = Sink.bytesOf lines
      ∧ broken.device.ear.bytes = Sink.bytesOf (lines.take n) := by
  intro call sound broken lines
  have hsound : sound = call.onDevice fun device => ⟨device, Sink.unlimited.write call.events⟩ :=
    heardCall_sink d context type arguments device .unlimited
  have hbroken : broken
      = call.onDevice fun device => ⟨device, (Sink.limited n).write call.events⟩ :=
    heardCall_sink d context type arguments device (.limited n)
  rw [hsound, hbroken]
  refine ⟨⟨rfl, rfl, rfl⟩, rfl, ?_, ?_⟩
  · exact Sink.bytes_write_unlimited call.events
  · exact Sink.bytes_write_limited call.events n

end Composed

end Switchboard
