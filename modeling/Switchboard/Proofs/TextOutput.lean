import Switchboard.Proofs.Announcement
import Switchboard.Proofs.Trimming

/-!
# What text output makes of a call

Text output tells a first message, lets the call proceed once, and tells a second message or the
display that the outcome brings along. It can fail by itself in two places, before the call goes on
and after it has come back.

`Output.text_around` says so of every rest of a call: what it emits, whether it fails and what it
makes of the arguments is its own affair. `Output.Closes` tells apart the ways in which a call ends
that has gone on; a line of text output is a message without the blanks around it (`Output.Says`) or
a display as it is.
-/

namespace Switchboard

variable {δ : Type}

namespace Output

/-! ## Messages without the blanks around them -/

/-- How a message becomes visible: as one line without the blanks around it, and not at all when
there is nothing else in it. -/
inductive Says (message : String) : List Event → Prop where
  | nothing : message.toList.all Text.isBlank = true → Says message []
  | line {text : String} {before behind : List Char} :
      message.toList = before ++ text.toList ++ behind →
      before.all Text.isBlank = true → behind.all Text.isBlank = true →
      text ≠ "" → Text.Trimmed text.toList → Says message [.line text]

theorem says_said (message : String) : Says message (said message) := by
  obtain ⟨before, behind, hmessage, hbefore, hbehind⟩ := Text.exists_padding message.toList
  have htext : (Text.trimString message).toList = Text.trim message.toList :=
    String.toList_ofList
  unfold said
  dsimp only
  split
  · rename_i hempty
    rw [String.isEmpty_iff] at hempty
    have htrim : Text.trim message.toList = [] := by rw [← htext, hempty, String.toList_empty]
    refine .nothing ?_
    rw [hmessage, htrim, List.append_nil, List.all_append, hbefore, hbehind]
    rfl
  · rename_i hempty
    rw [← htext] at hmessage
    refine .line hmessage hbefore hbehind (fun h => hempty (String.isEmpty_iff.2 h)) ?_
    rw [htext]
    exact Text.trimmed_trim message.toList

/-! ## How a call ends -/

/-- How a call with text output ends once the rest of it, `inner`, has come back: what is told after
it, and the result. -/
inductive Closes (post : Message) (inner : Call δ) : List Event → Result → Prop where
  /-- An error of the rest is passed on in silence. -/
  | failed {error : DispatchError} : inner.result = .error error →
      Closes post inner [] (.error error)
  /-- A display is shown as it is, unless a function composes the message. -/
  | displayed {outcome : Outcome} {display : String} : inner.result = .ok outcome →
      post.isComposed = false → outcome.display? = some display →
      Closes post inner [.line display] (.ok outcome)
  /-- In all other cases the message is told. -/
  | concluded {outcome : Outcome} {message : String} {closing : List Event} :
      inner.result = .ok outcome → (post.isComposed = true ∨ outcome.display? = none) →
      post.render ⟨inner.arguments, some outcome⟩ = .ok message → Says message closing →
      Closes post inner closing (.ok outcome)
  /-- A message that cannot be made is the error of the call. -/
  | unconcluded {outcome : Outcome} {error : UsageError} :
      inner.result = .ok outcome → (post.isComposed = true ∨ outcome.display? = none) →
      post.render ⟨inner.arguments, some outcome⟩ = .error error →
      Closes post inner [] (.error (.usage error))

theorem display?_filter_eq_none_iff {post : Message} {outcome : Outcome} :
    (outcome.display?.filter fun _ => !post.isComposed) = none
      ↔ post.isComposed = true ∨ outcome.display? = none := by
  cases post.isComposed <;> cases outcome.display? <;> simp

/-- Showing an outcome leaves device and arguments alone. -/
theorem closes_showText (post : Message) {inner : Call δ} {outcome : Outcome}
    (h : inner.result = .ok outcome) (rest : Rest δ) :
    ∃ closing result, Closes post inner closing result
      ∧ (showText post inner.arguments outcome).run rest inner.device
        = ⟨inner.device, inner.arguments, closing, result⟩ := by
  unfold showText
  dsimp only
  split
  · -- the display goes before the message, since no function composes that
    rename_i display hdisplay
    obtain ⟨hdisplay, hcomposed⟩ := Option.filter_eq_some_iff.1 hdisplay
    exact ⟨_, _, .displayed h (by simpa using hcomposed) hdisplay, rfl⟩
  · rename_i hdisplay
    have hmessage := display?_filter_eq_none_iff.1 hdisplay
    split
    · rename_i message hrender
      refine ⟨said message, .ok outcome, .concluded h hmessage hrender (says_said message), ?_⟩
      rw [say_run, Course.run, Call.ended, Call.after, List.append_nil]
    · rename_i error hrender
      exact ⟨[], _, .unconcluded h hmessage hrender, rfl⟩

/-- **A call with a first message** tells it, goes on, and closes. -/
theorem closes_around {pre : Message} (post : Message) {arguments : Arguments} {first : String}
    (h : pre.render ⟨arguments, none⟩ = .ok first) (rest : Rest δ) (device : δ) :
    let inner := rest arguments device
    ∃ closing result, Closes post inner closing result
      ∧ (text pre post).layer.around rest arguments device
        = ⟨inner.device, inner.arguments, said first ++ (inner.events ++ closing), result⟩ := by
  intro inner
  have hcourse : (text pre post).layer.around rest arguments device
      = (textCourse pre post arguments).run rest device := rfl
  have hinner : rest arguments device = inner := rfl
  rw [hcourse, textCourse, h]
  dsimp only
  rw [say_run, Course.run, hinner]
  -- an error of the rest is passed on, an outcome is still to be shown
  cases hresult : inner.result with
  | error error => exact ⟨[], .error error, .failed hresult, rfl⟩
  | ok outcome =>
    obtain ⟨closing, result, hcloses, hrun⟩ := closes_showText post hresult rest
    refine ⟨closing, result, hcloses, ?_⟩
    dsimp only
    rw [hrun]
    rfl

/-! ## The calls of the rest -/

theorem say_calls (message : String) (course : Course) (rest : Rest δ) (device : δ) :
    (say message course).calls rest device = course.calls rest device := by
  unfold say
  dsimp only
  split <;> rfl

theorem showText_calls (post : Message) (arguments : Arguments) (outcome : Outcome) (rest : Rest δ)
    (device : δ) : (showText post arguments outcome).calls rest device = [] := by
  unfold showText
  dsimp only
  split
  · rfl
  · split
    · rw [say_calls]
      rfl
    · rfl

/-- Text output lets the call proceed once, with the arguments it was given, or not at all. -/
theorem textCourse_calls (pre post : Message) (arguments : Arguments) (rest : Rest δ) (device : δ) :
    (textCourse pre post arguments).calls rest device
      = if (pre.render ⟨arguments, none⟩).isOk then [(arguments, device)] else [] := by
  unfold textCourse
  cases pre.render ⟨arguments, none⟩ with
  | error error => rfl
  | ok first =>
    dsimp only
    rw [say_calls, Course.calls]
    cases (rest arguments device).result with
    | ok outcome =>
      dsimp only
      rw [showText_calls]
      rfl
    | error error => rfl

/--
**Text output around any call.**

If the first message cannot be made, the rest is not called and nothing is told. Otherwise the rest
is called once, with the arguments as they are, and leaves device and arguments as it likes; the
first message stands before what it emits, and what is told after it is as `Closes` says. The fields
of the second message are the outcome and the arguments that the rest has left; the outcome goes
before an argument of its name.
-/
theorem text_around (pre post : Message) (rest : Rest δ) (arguments : Arguments) (device : δ) :
    let call := (text pre post).layer.around rest arguments device
    let inner := rest arguments device
    let calls := ((text pre post).layer.course arguments).calls rest device
    (∀ error, pre.render ⟨arguments, none⟩ = .error error →
        calls = [] ∧ call = ⟨device, arguments, [], .error (.usage error)⟩)
      ∧ (∀ first, pre.render ⟨arguments, none⟩ = .ok first →
        calls = [(arguments, device)]
          ∧ ∃ opening closing result, Says first opening ∧ Closes post inner closing result
            ∧ call = ⟨inner.device, inner.arguments, opening ++ (inner.events ++ closing), result⟩)
      ∧ ∀ outcome, let source : MessageSource := ⟨inner.arguments, some outcome⟩
        (∀ name, source.field? name
            = if name = "result" then some outcome.render
              else (Entries.get? name inner.arguments).map Json.plainText)
          ∧ ∀ template, (Message.template template).render source
            = Template.render template source.field? := by
  intro call inner calls
  have hcalls : calls = if (pre.render ⟨arguments, none⟩).isOk then [(arguments, device)] else [] :=
    textCourse_calls pre post arguments rest device
  refine ⟨fun error herror => ⟨?_, textCourse_run_of_error herror rest device⟩,
    fun first hfirst => ⟨?_, ?_⟩, fun outcome => ⟨fun name => rfl, fun template => rfl⟩⟩
  · rw [hcalls, herror]
    rfl
  · rw [hcalls, hfirst]
    rfl
  · obtain ⟨closing, result, hcloses, hcall⟩ := closes_around post hfirst rest device
    exact ⟨said first, closing, result, says_said first, hcloses, hcall⟩

/-- An argument with the name of the outcome does not stand in for it. -/
example : ((text .empty (.template " \x7bresult\x7d\n")).layer.around
    (fun arguments (device : Unit) => .ended device arguments (.ok (.text "done")))
    [("result", .string "given")] ()).events = [.line "done"] := by decide +kernel

end Output

end Switchboard
