import Switchboard.Proofs.JsonOutput
import Switchboard.Proofs.Watch

/-!
# Usage errors and the device

A usage error is meant to be reported before any device is touched. Text output can raise one at two
moments: its first message is made before the call goes on, its second when the call has come back,
and by then the device was reached. So the guarantee holds for the one and fails for the other.

A call is watched for its milestones: that the output strategy is entered, and with what arguments;
that information is fetched; that the method starts. `usageError_untouched_iff` says of every call
that ends with a usage error of which message the error is, and that the device is untouched exactly
if the first message failed each time the strategy was entered. That is once in a command without
decorators; a decorator may let the call proceed several times, and a first message that succeeds
once is enough for the device to be touched.
-/

namespace Switchboard

variable {δ : Type}

/-! ## Layers that raise no usage error -/

/-- Whether a course ends with no usage error but those already seen and those that come back to it.
-/
def Course.RaisesNoUsage (seen : UsageError → Prop) : Course → Prop
  | .finish _ result => ∀ error, result = .error (.usage error) → seen error
  | .emit _ course => course.RaisesNoUsage seen
  | .proceed _ resume => ∀ arguments result,
      (resume arguments result).RaisesNoUsage fun error =>
        seen error ∨ result = .error (.usage error)

/-- A layer that passes usage errors on but raises none. -/
def Layer.RaisesNoUsage (layer : Layer) : Prop :=
  ∀ arguments, (layer.course arguments).RaisesNoUsage fun _ => False

/-- A usage error that a course ends with was seen or came back from the rest. What is known of the
errors of the rest, from the device they leave, is known then too, if no later call undoes it. -/
theorem Course.usage_of_run {rest : Rest δ} {Blamed : δ → UsageError → Prop}
    (hkeep : ∀ arguments d error, Blamed d error → Blamed (rest arguments d).device error)
    (h : ∀ arguments d error, (rest arguments d).result = .error (.usage error) →
      Blamed (rest arguments d).device error)
    (course : Course) (seen : UsageError → Prop) (hc : course.RaisesNoUsage seen) (d : δ)
    (error : UsageError) (hr : (course.run rest d).result = .error (.usage error)) :
    seen error ∨ Blamed (course.run rest d).device error := by
  induction course generalizing seen d with
  | finish arguments result => exact Or.inl (hc error hr)
  | emit event course ih => exact ih seen hc d hr
  | proceed arguments resume ih =>
      have hstep := ih _ _ _ (hc (rest arguments d).arguments (rest arguments d).result)
        (rest arguments d).device hr
      rcases hstep with (hseen | hback) | hblamed
      · exact Or.inl hseen
      · -- the error came back from this call, and later calls keep who is to blame
        refine Or.inr ?_
        exact Course.run_relates (R := fun d d' => Blamed d error → Blamed d' error)
          (fun _ hb => hb) (fun h₁ h₂ hb => h₂ (h₁ hb)) (fun arguments d => hkeep arguments d error)
          (resume (rest arguments d).arguments (rest arguments d).result) (rest arguments d).device
          (h arguments d error hback)
      · exact Or.inr hblamed

/-- The same of layers. -/
theorem Layer.usage_of_nest (rest : Rest δ) (Blamed : δ → UsageError → Prop)
    (hkeep : ∀ arguments d error, Blamed d error → Blamed (rest arguments d).device error)
    (h : ∀ arguments d error, (rest arguments d).result = .error (.usage error) →
      Blamed (rest arguments d).device error)
    (layers : List Layer) (hl : ∀ layer ∈ layers, layer.RaisesNoUsage) :
    ∀ arguments d error, (nest layers rest arguments d).result = .error (.usage error) →
      Blamed (nest layers rest arguments d).device error := by
  induction layers with
  | nil => exact h
  | cons layer layers ih =>
      intro arguments d error hr
      have hkeep' : ∀ arguments d error, Blamed d error →
          Blamed (nest layers rest arguments d).device error := by
        intro arguments d error hb
        exact nest_relates (R := fun d d' => Blamed d error → Blamed d' error) (fun _ hb => hb)
          (fun h₁ h₂ hb => h₂ (h₁ hb)) (fun arguments d => hkeep arguments d error) layers
          arguments d hb
      -- no layer raises one, so nothing was seen before
      have hrest := ih fun l hmem => hl l (List.mem_cons_of_mem _ hmem)
      have hlayer := hl layer List.mem_cons_self arguments
      have hcourse := Course.usage_of_run hkeep' hrest (layer.course arguments) _ hlayer d error hr
      exact hcourse.resolve_left id

/-! ## The course of text output -/

namespace Output

theorem say_run_device (message : String) (course : Course) (rest : Rest δ) (device : δ) :
    ((say message course).run rest device).device = (course.run rest device).device := by
  unfold say
  dsimp only
  split <;> rfl

theorem say_run_result (message : String) (course : Course) (rest : Rest δ) (device : δ) :
    ((say message course).run rest device).result = (course.run rest device).result := by
  unfold say
  dsimp only
  split <;> rfl

/-- Showing an outcome leaves the device alone, and gives the outcome back unless the second message
cannot be made. -/
theorem showText_run (post : Message) (arguments : Arguments) (outcome : Outcome) (rest : Rest δ)
    (device : δ) :
    ((showText post arguments outcome).run rest device).device = device
      ∧ (((showText post arguments outcome).run rest device).result = .ok outcome
        ∨ ∃ error, post.render ⟨arguments, some outcome⟩ = .error error
          ∧ ((showText post arguments outcome).run rest device).result
            = .error (.usage error)) := by
  unfold showText
  dsimp only
  split
  · exact ⟨rfl, Or.inl rfl⟩
  · split
    · rw [say_run_device, say_run_result]
      exact ⟨rfl, Or.inl rfl⟩
    · rename_i error herror
      exact ⟨rfl, Or.inr ⟨error, herror, rfl⟩⟩

/-- Without a first message the call ends at once. -/
theorem textCourse_run_of_error {pre post : Message} {arguments : Arguments} {error : UsageError}
    (h : pre.render ⟨arguments, none⟩ = .error error) (rest : Rest δ) (device : δ) :
    (textCourse pre post arguments).run rest device
      = .ended device arguments (.error (.usage error)) := by
  unfold textCourse
  rw [h]
  rfl

/-- With a first message the rest is called once. The device is left as the rest leaves it, and a
usage error is that of the rest or of the second message. -/
theorem textCourse_run_of_ok {pre : Message} (post : Message) {arguments : Arguments}
    {message : String} (h : pre.render ⟨arguments, none⟩ = .ok message) (rest : Rest δ)
    (device : δ) :
    ((textCourse pre post arguments).run rest device).device = (rest arguments device).device
      ∧ ∀ error, ((textCourse pre post arguments).run rest device).result = .error (.usage error) →
        (rest arguments device).result = .error (.usage error)
          ∨ ∃ outcome, (rest arguments device).result = .ok outcome
            ∧ post.render ⟨(rest arguments device).arguments, some outcome⟩ = .error error := by
  unfold textCourse
  rw [h]
  dsimp only
  rw [say_run_device, say_run_result, Course.run]
  dsimp only [Call.after_device, Call.after_result]
  cases hresult : (rest arguments device).result with
  | error error' =>
      refine ⟨rfl, fun error herror => Or.inl ?_⟩
      exact herror
  | ok outcome =>
      have hshow := showText_run post (rest arguments device).arguments outcome rest
        (rest arguments device).device
      refine ⟨hshow.1, fun error herror => Or.inr ⟨outcome, rfl, ?_⟩⟩
      rcases hshow.2 with hok | ⟨error', hpost, herror'⟩
      · rw [hok] at herror
        exact absurd herror (by simp)
      · rw [herror'] at herror
        rw [hpost]
        simpa using herror

/-- JSON output raises no usage error. -/
theorem json_result (pretty : Bool) (rest : Rest δ) (arguments : Arguments) (device : δ)
    (error : UsageError)
    (h : ((json pretty).layer.around rest arguments device).result = .error (.usage error)) :
    (rest arguments device).result = .error (.usage error) :=
  ((shown_around pretty rest arguments device).of_error h).1

end Output

/-! ## Milestones -/

/-- What is to be seen of a call. -/
inductive Milestone where
  /-- The output strategy is entered with these arguments. -/
  | output (arguments : Arguments)
  /-- Information is fetched from the device. -/
  | fetch
  /-- The method starts. -/
  | method

/-- Whether the device is reached. -/
def Milestone.isTouch : Milestone → Prop
  | output _ => False
  | _ => True

namespace Composed

/-- The guarded method, with its milestones. -/
def watchedCore (d : Descriptor δ) (type : DeviceType δ) : Rest (Watched Milestone δ) :=
  let method := Watched.marking (fun _ => .method) (Watched.part.lift d.method)
  if d.skipsAutodetect then method
  else autodetect (Watched.type [Milestone.fetch] type) method

/-- The output strategy around the guarded method, with their milestones. -/
def watchedOutput (d : Descriptor δ) (output : Output) (type : DeviceType δ) :
    Rest (Watched Milestone δ) :=
  Watched.marking .output (output.layer.around (watchedCore d type))

/-- A call of a command in a context, with its milestones. -/
def watchedCall (d : Descriptor δ) (context : Context) (type : DeviceType δ) :
    Rest (Watched Milestone δ) :=
  Layer.nest d.decorators.reverse (watchedOutput d (output d context) type)

/-- **A watched call is the call**, with milestones beside its device. -/
theorem simulates_watchedCall (d : Descriptor δ) (context : Context) (type : DeviceType δ) :
    Simulates Watched.device (watchedCall d context type) ((compose d context).call type) := by
  have hmethod : Simulates Watched.device
      (Watched.marking (fun _ => Milestone.method) (Watched.part.lift d.method)) d.method :=
    Watched.simulates_marking _ (Watched.simulates_lift d.method)
  have hcore : Simulates Watched.device (watchedCore d type) ((compose d context).core type) := by
    unfold watchedCore core compose
    cases d.skipsAutodetect with
    | true => exact hmethod
    | false => exact hmethod.autodetect (Watched.delegates_type [Milestone.fetch] type)
  have houtput := Watched.simulates_marking Milestone.output
    (hcore.around (output d context).layer)
  rw [call_eq_nest]
  unfold watchedCall compose Layer.nest
  rw [List.foldr_append]
  exact houtput.nest d.decorators.reverse

/-! ## What the guarded method does -/

/-- The guarded method always reaches the device. -/
theorem watchedCore_marks (d : Descriptor δ) (type : DeviceType δ) (arguments : Arguments)
    (w : Watched Milestone δ) :
    ∃ new, (watchedCore d type arguments w).device.marks = w.marks ++ new ∧ new ≠ []
      ∧ ∀ m ∈ new, m.isTouch := by
  unfold watchedCore
  split
  · exact ⟨[.method], rfl, List.cons_ne_nil _ _, List.forall_mem_singleton.2 trivial⟩
  · obtain ⟨new, hmarks, hnew⟩ := Watched.autodetect_marks [Milestone.fetch] (fun _ => .method) type
      d.method arguments w
    refine ⟨new, hmarks, ?_⟩
    rcases hnew with rfl | rfl | rfl <;> simp [Milestone.isTouch]

/-- The guarded method gives an outcome only when the method was started. -/
theorem method_mem_of_watchedCore {d : Descriptor δ} {type : DeviceType δ} {arguments : Arguments}
    {w : Watched Milestone δ} {outcome : Outcome}
    (h : (watchedCore d type arguments w).result = .ok outcome) :
    .method ∈ (watchedCore d type arguments w).device.marks := by
  have hmethod : ∀ w : Watched Milestone δ, .method ∈
      (Watched.marking (fun _ => .method) (Watched.part.lift d.method) arguments w).device.marks :=
    fun w => List.mem_append_right w.marks (List.mem_singleton_self _)
  unfold watchedCore at h ⊢
  split
  · exact hmethod w
  · rename_i hskip
    rw [if_neg hskip] at h
    unfold autodetect at h ⊢
    split
    · exact hmethod w
    · rename_i hknown
      rw [if_neg hknown] at h
      dsimp only at h ⊢
      split
      · exact hmethod _
      · rename_i error herror
        rw [herror] at h
        exact absurd h (by simp)

/-- The guard raises no usage error, so the guarded method does only if the method does. -/
theorem watchedCore_not_usage {d : Descriptor δ}
    (hm : ∀ arguments device error, (d.method arguments device).result ≠ .error (.usage error))
    (type : DeviceType δ) (arguments : Arguments) (w : Watched Milestone δ) (error : UsageError) :
    (watchedCore d type arguments w).result ≠ .error (.usage error) := by
  unfold watchedCore
  split
  · exact hm arguments w.device error
  · unfold autodetect
    split
    · exact hm arguments w.device error
    · dsimp only
      split
      · exact hm arguments _ error
      · simp

/-! ## Which message is to blame -/

/-- The message that a usage error is of: the first one, made from arguments that the output
strategy was entered with, or the second one, after the first was made and the method has started.
-/
def Blames (pre post : Message) (marks : List Milestone) (error : UsageError) : Prop :=
  ∃ arguments, .output arguments ∈ marks
    ∧ (pre.render ⟨arguments, none⟩ = .error error
      ∨ .method ∈ marks ∧ (∃ message, pre.render ⟨arguments, none⟩ = .ok message)
        ∧ ∃ arguments' outcome, post.render ⟨arguments', some outcome⟩ = .error error)

theorem Blames.mono {pre post : Message} {marks marks' : List Milestone} {error : UsageError}
    (hsub : ∀ m ∈ marks, m ∈ marks') (h : Blames pre post marks error) :
    Blames pre post marks' error := by
  obtain ⟨arguments, hmem, hpre | ⟨hmethod, hok, hpost⟩⟩ := h
  · exact ⟨arguments, hsub _ hmem, Or.inl hpre⟩
  · exact ⟨arguments, hsub _ hmem, Or.inr ⟨hsub _ hmethod, hok, hpost⟩⟩

/-- Marks stay. -/
theorem watchedOutput_keeps (d : Descriptor δ) (output : Output) (type : DeviceType δ)
    (arguments : Arguments) (w : Watched Milestone δ) :
    ∀ m ∈ (w.mark (.output arguments)).marks,
      m ∈ (watchedOutput d output type arguments w).device.marks := by
  refine Course.run_relates (R := fun w w' => ∀ m ∈ w.marks, m ∈ w'.marks) (fun _ _ hm => hm)
    (fun h₁ h₂ m hm => h₂ m (h₁ m hm)) ?_ (output.layer.course arguments) (w.mark _)
  intro arguments w m hm
  obtain ⟨new, hmarks, -, -⟩ := watchedCore_marks d type arguments w
  rw [hmarks]
  exact List.mem_append_left _ hm

/-- A usage error that the output strategy ends with is of one of its messages. -/
theorem blames_of_watchedOutput {d : Descriptor δ}
    (hm : ∀ arguments device error, (d.method arguments device).result ≠ .error (.usage error))
    {output : Output} {type : DeviceType δ} {arguments : Arguments} {w : Watched Milestone δ}
    {error : UsageError}
    (h : (watchedOutput d output type arguments w).result = .error (.usage error)) :
    ∃ pre post, output = .text pre post
      ∧ Blames pre post (watchedOutput d output type arguments w).device.marks error := by
  have hentered := watchedOutput_keeps d output type arguments w (.output arguments)
    (List.mem_append_right _ (List.mem_singleton_self _))
  cases output with
  | json pretty =>
      have hcore := Output.json_result pretty (watchedCore d type) arguments (w.mark _) error h
      exact absurd hcore (watchedCore_not_usage hm type arguments _ error)
  | text pre post =>
      refine ⟨pre, post, rfl, arguments, hentered, ?_⟩
      cases hpre : pre.render ⟨arguments, none⟩ with
      | error error' =>
          unfold watchedOutput Watched.marking Layer.around Output.layer at h
          dsimp only at h
          rw [Output.textCourse_run_of_error hpre] at h
          refine Or.inl ?_
          unfold Call.ended at h
          simpa using h
      | ok message =>
          obtain ⟨hdevice, hresult⟩ := Output.textCourse_run_of_ok post hpre
            (watchedCore d type) (w.mark (.output arguments))
          rcases hresult error h with hcore | ⟨outcome, hcore, hpost⟩
          · exact absurd hcore (watchedCore_not_usage hm type arguments _ error)
          · have hmethod := method_mem_of_watchedCore hcore
            rw [← hdevice] at hmethod
            exact Or.inr ⟨hmethod, ⟨message, rfl⟩, _, outcome, hpost⟩

/-! ## When the device is untouched -/

/-- What happened to a device between two moments of a call with a first message `pre`: it was
reached exactly if the message was made once, and if it was not, it is as before. -/
def ReachedByMessage (pre : Message) (w w' : Watched Milestone δ) : Prop :=
  ∃ new, w'.marks = w.marks ++ new
    ∧ ((∀ m ∈ new, ¬ m.isTouch)
      ↔ ∀ arguments, .output arguments ∈ new → ∃ error, pre.render ⟨arguments, none⟩ = .error error)
    ∧ ((∀ m ∈ new, ¬ m.isTouch) → w'.device = w.device)

namespace ReachedByMessage

variable {pre : Message} {w₁ w₂ w₃ : Watched Milestone δ}

theorem refl (pre : Message) (w : Watched Milestone δ) : ReachedByMessage pre w w :=
  ⟨[], (List.append_nil _).symm, by simp, fun _ => rfl⟩

theorem trans (h₁ : ReachedByMessage pre w₁ w₂) (h₂ : ReachedByMessage pre w₂ w₃) :
    ReachedByMessage pre w₁ w₃ := by
  obtain ⟨new₁, hmarks₁, hiff₁, hdevice₁⟩ := h₁
  obtain ⟨new₂, hmarks₂, hiff₂, hdevice₂⟩ := h₂
  refine ⟨new₁ ++ new₂, ?_, ?_, ?_⟩
  · rw [hmarks₂, hmarks₁, List.append_assoc]
  · simp only [List.mem_append, or_imp, forall_and]
    rw [hiff₁, hiff₂]
  · intro hnone
    -- untouched in both parts, so as before in each of them
    have hnone₁ : ∀ m ∈ new₁, ¬ m.isTouch := fun m hm => hnone m (List.mem_append_left _ hm)
    have hnone₂ : ∀ m ∈ new₂, ¬ m.isTouch := fun m hm => hnone m (List.mem_append_right _ hm)
    exact (hdevice₂ hnone₂).trans (hdevice₁ hnone₁)

end ReachedByMessage

/-- **One pass of text output** reaches the device exactly if its first message is made. -/
theorem reachedByMessage_watchedOutput (d : Descriptor δ) (pre post : Message) (type : DeviceType δ)
    (arguments : Arguments) (w : Watched Milestone δ) :
    ReachedByMessage pre w (watchedOutput d (.text pre post) type arguments w).device := by
  unfold watchedOutput Watched.marking Layer.around Output.layer
  dsimp only
  cases hpre : pre.render ⟨arguments, none⟩ with
  | error error =>
      rw [Output.textCourse_run_of_error hpre]
      refine ⟨[.output arguments], rfl, ?_, fun _ => rfl⟩
      simp [Milestone.isTouch, hpre]
  | ok message =>
      rw [(Output.textCourse_run_of_ok post hpre (watchedCore d type) _).1]
      obtain ⟨new, hmarks, hne, htouch⟩ := watchedCore_marks d type arguments
        (w.mark (.output arguments))
      obtain ⟨m, rest, rfl⟩ := List.exists_cons_of_ne_nil hne
      have hm : m.isTouch := htouch m List.mem_cons_self
      -- the message was made, and then the guarded method is reached in any case
      have hreached : ¬ ∀ m' ∈ Milestone.output arguments :: m :: rest, ¬ m'.isTouch :=
        fun hnone => hnone m (List.mem_cons_of_mem _ List.mem_cons_self) hm
      refine ⟨.output arguments :: m :: rest, ?_, ?_, fun hnone => absurd hnone hreached⟩
      · rw [hmarks, Watched.mark_marks, List.append_assoc]
        rfl
      · refine ⟨fun hnone => absurd hnone hreached, fun hfails => ?_⟩
        obtain ⟨error, herror⟩ := hfails arguments List.mem_cons_self
        rw [hpre] at herror
        exact absurd herror (by simp)

/--
**When a usage error leaves the device untouched.**

Of a command whose method and decorators raise no usage error, a call that ends with one had text
output, and the error is of one of its messages. Neither fetching nor the method has run and the
device is as before exactly if the first message could not be made whenever the output strategy was
entered.
-/
theorem usageError_untouched_iff {type : DeviceType δ} {d : Descriptor δ} {context : Context}
    (hd : ∀ layer ∈ d.decorators, layer.RaisesNoUsage)
    (hm : ∀ arguments device error, (d.method arguments device).result ≠ .error (.usage error))
    {arguments : Arguments} {device : δ} {error : UsageError}
    (h : ((compose d context).call type arguments device).result = .error (.usage error)) :
    let watched := watchedCall d context type arguments (.fresh device)
    watched.onDevice Watched.device = (compose d context).call type arguments device
      ∧ ∃ pre post, output d context = .text pre post
        ∧ Blames pre post watched.device.marks error
        ∧ ((.fetch ∉ watched.device.marks ∧ .method ∉ watched.device.marks
              ∧ ((compose d context).call type arguments device).device = device)
            ↔ ∀ arguments', .output arguments' ∈ watched.device.marks →
                ∃ error', pre.render ⟨arguments', none⟩ = .error error') := by
  intro watched
  have hview : watched.onDevice Watched.device = (compose d context).call type arguments device :=
    simulates_watchedCall d context type arguments (.fresh device)
  refine ⟨hview, ?_⟩
  have hwatched : watched.result = .error (.usage error) := by
    rw [← Call.onDevice_result Watched.device watched, hview]
    exact h
  -- decorators only pass on what came out of the output strategy
  have hblames := Layer.usage_of_nest (watchedOutput d (output d context) type)
    (fun w error => ∃ pre post, output d context = .text pre post ∧ Blames pre post w.marks error)
    (fun arguments w error ⟨pre, post, houtput, hb⟩ => ⟨pre, post, houtput, hb.mono fun m hmem =>
      watchedOutput_keeps d _ type arguments w m (List.mem_append_left _ hmem)⟩)
    (fun arguments w error hr => blames_of_watchedOutput hm hr)
    d.decorators.reverse (fun layer hl => hd layer (List.mem_reverse.1 hl))
    arguments (.fresh device) error hwatched
  obtain ⟨pre, post, houtput, hblames⟩ := hblames
  refine ⟨pre, post, houtput, hblames, ?_⟩
  -- every pass of the strategy keeps the relation, and so do the decorators around it
  have hreached : ReachedByMessage pre (.fresh device) watched.device := by
    refine Layer.nest_relates (ReachedByMessage.refl pre) ReachedByMessage.trans ?_
      d.decorators.reverse arguments (.fresh device)
    rw [houtput]
    exact reachedByMessage_watchedOutput d pre post type
  obtain ⟨new, hmarks, hiff, hdevice⟩ := hreached
  have hnew : watched.device.marks = new := hmarks
  have htouch : (∀ m ∈ new, ¬ m.isTouch) ↔ .fetch ∉ new ∧ .method ∉ new := by
    refine ⟨fun hnone => ⟨fun hf => hnone _ hf trivial, fun hf => hnone _ hf trivial⟩, ?_⟩
    rintro ⟨hfetch, hmethod⟩ m hmem ht
    cases m with
    | output arguments => exact ht
    | fetch => exact hfetch hmem
    | method => exact hmethod hmem
  rw [hnew, ← hiff, htouch, ← hview]
  refine ⟨fun hall => ⟨hall.1, hall.2.1⟩, fun hnone => ⟨hnone.1, hnone.2, ?_⟩⟩
  exact hdevice (htouch.2 hnone)

/-! ## A device that counts its calls -/

/-- A type of devices that count the calls of their method and are never identified. -/
def countingType : DeviceType Nat :=
  ⟨"home::Lamp", "lamp", none, [], none, fun _ => 0, fun _ => none, fun _ => false,
    fun calls => ⟨calls, [], .ok ()⟩⟩

/-- A command with text output and a method that always succeeds. -/
def countingCommand (pre post : Message) : Descriptor Nat :=
  ⟨"mode", fun arguments calls => .ended (calls + 1) arguments (.ok .unit),
    [.transparent "outer"], some (.text pre post), [], [], false⟩

theorem countingCommand_decorators (pre post : Message) :
    ∀ layer ∈ (countingCommand pre post).decorators, layer.RaisesNoUsage := by
  intro layer hl
  rw [List.mem_singleton.1 hl]
  exact fun _ _ _ _ herror => Or.inr herror

theorem countingCommand_method (pre post : Message) (arguments : Arguments) (calls : Nat)
    (error : UsageError) :
    ((countingCommand pre post).method arguments calls).result ≠ .error (.usage error) := by
  simp [countingCommand, Call.ended]

/-- A first message with a field that is not given. -/
theorem usageError_untouched_missingField :
    let d := countingCommand (.template "Mode \x7bmode\x7d") .empty
    let call := (compose d ⟨0, none⟩).call countingType [] 0
    let marks := (watchedCall d ⟨0, none⟩ countingType [] (.fresh 0)).device.marks
    call.result = .error (.usage (.missingTemplateField "mode"))
      ∧ .fetch ∉ marks ∧ .method ∉ marks ∧ call.device = 0 := by
  intro d call marks
  have hresult : call.result = .error (.usage (.missingTemplateField "mode")) := by
    unfold call
    rw [call_eq_nest]
    rfl
  obtain ⟨-, pre, post, houtput, -, hiff⟩ :=
    usageError_untouched_iff (countingCommand_decorators _ _) (countingCommand_method _ _) hresult
  have hpre : pre = .template "Mode \x7bmode\x7d" := by
    injection houtput with hpre
    exact hpre.symm
  have hmarks : marks = [.output []] := rfl
  refine ⟨hresult, hiff.2 ?_⟩
  intro arguments hmem
  have harguments : arguments = [] := by
    have hmem' : Milestone.output arguments ∈ marks := hmem
    rw [hmarks, List.mem_singleton] at hmem'
    injection hmem'
  subst hpre harguments
  exact ⟨_, rfl⟩

/-- **A usage error may come after the method has run**: a second message with a field that nothing
gives. -/
theorem not_usageError_untouched :
    ¬ ∀ (type : DeviceType Nat) (d : Descriptor Nat) (context : Context) (arguments : Arguments)
        (device : Nat) (error : UsageError),
      (∀ layer ∈ d.decorators, layer.RaisesNoUsage) →
      (∀ arguments device error, (d.method arguments device).result ≠ .error (.usage error)) →
      ((compose d context).call type arguments device).result = .error (.usage error) →
      .fetch ∉ (watchedCall d context type arguments (.fresh device)).device.marks
        ∧ .method ∉ (watchedCall d context type arguments (.fresh device)).device.marks
        ∧ ((compose d context).call type arguments device).device = device := by
  intro hclaim
  have hresult : ((compose (countingCommand .empty (.template "\x7bnope\x7d")) ⟨0, none⟩).call
      countingType [] 0).result = .error (.usage (.missingTemplateField "nope")) := by
    rw [call_eq_nest]
    rfl
  have hmarks : (watchedCall (countingCommand .empty (.template "\x7bnope\x7d")) ⟨0, none⟩
      countingType [] (.fresh 0)).device.marks = [.output [], .fetch, .method] := rfl
  obtain ⟨hfetch, -⟩ := hclaim countingType _ ⟨0, none⟩ [] 0 _ (countingCommand_decorators _ _)
    (countingCommand_method _ _) hresult
  rw [hmarks] at hfetch
  exact hfetch (List.mem_cons_of_mem _ List.mem_cons_self)

end Composed

end Switchboard
