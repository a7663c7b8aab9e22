import Switchboard.Proofs.Hearing
import Switchboard.Rehearsal.Decoration

/-!
# Strategies show, they do not act

Both output strategies have branches in which a call ends with something other than what came back:
text output when a message cannot be made, JSON output when a device sends a payload with its error.
None of these is taken as long as no stage ends with an error. Of a strategy nothing is left then
but lines around one call of the rest (`Course.PassesOn`), so the call is the one without a strategy
as far as anybody but the reader of the output can tell (`Composed.follows_heardCall`).

Two runs under two strategies are both compared with that call, and so with each other. Whether a
stage has ended with an error is read off a trace, since a decorator may call the rest again after
an error, or put an outcome in its place.
-/

namespace Switchboard

variable {δ : Type}

/-! ## Traces -/

/-- What a trace holds of a call. -/
inductive Mark where
  | emitted (stage : Stage) (event : Event)
  | ended (stage : Stage) (result : Result)

/-- All that was heard of a call, in order. -/
abbrev Trace := List Mark

namespace Trace

/-- Writes down all that is heard. -/
def listener : Listener Trace where
  start := []
  emitted stage event trace := trace ++ [.emitted stage event]
  ended stage result trace := trace ++ [.ended stage result]

/-- No stage has ended with an error. -/
def Sound (trace : Trace) : Prop := ∀ stage error, Mark.ended stage (.error error) ∉ trace

theorem sound_cons_iff (mark : Mark) (trace : Trace) :
    Sound (mark :: trace) ↔ (∀ stage error, mark ≠ .ended stage (.error error)) ∧ Sound trace := by
  constructor
  · intro h
    refine ⟨fun stage error hmark => h stage error (hmark ▸ List.mem_cons_self), ?_⟩
    exact fun stage error hmem => h stage error (List.mem_cons_of_mem _ hmem)
  · rintro ⟨hmark, htrace⟩ stage error hmem
    rcases List.mem_cons.1 hmem with heq | hmem
    · exact hmark stage error heq.symm
    · exact htrace stage error hmem

/-- Whether no stage has ended with an error. -/
def isSound : Trace → Bool
  | [] => true
  | .ended _ (.error _) :: _ => false
  | _ :: trace => isSound trace

theorem isSound_iff (trace : Trace) : trace.isSound = true ↔ trace.Sound := by
  fun_induction isSound trace with
  | case1 => simp [Sound]
  | case2 stage error trace => simp [sound_cons_iff]
  | case3 mark trace hmark ih =>
    rw [sound_cons_iff, ih]
    exact ⟨fun h => ⟨hmark, h⟩, And.right⟩

instance (trace : Trace) : Decidable trace.Sound :=
  decidable_of_iff _ trace.isSound_iff

/-- The events of all stages. -/
def events (trace : Trace) : List Event :=
  trace.filterMap fun mark => match mark with
    | .emitted _ event => some event
    | .ended _ _ => none

/-- The events of the stages beside the output stage, each with its stage. -/
def besides (trace : Trace) : List (Stage × Event) :=
  trace.filterMap fun mark => match mark with
    | .emitted stage event => if stage = .output then none else some (stage, event)
    | .ended _ _ => none

theorem records_listener : listener.Records events fun events event => events ++ [event] where
  emitted stage event trace := by simp [listener, events]
  ended stage result trace := by simp [listener, events]

theorem Sound.of_append {trace more : Trace} (h : Sound (trace ++ more)) : Sound trace :=
  fun stage error hmem => h stage error (List.mem_append_left _ hmem)

/-- A trace is sound no longer once a stage has ended with an error. -/
theorem Sound.exists_ok {trace : Trace} {stage : Stage} {result : Result}
    (h : Sound (listener.ended stage result trace)) : ∃ outcome, result = .ok outcome := by
  cases result with
  | ok outcome => exact ⟨outcome, rfl⟩
  | error error =>
    have hmem : Mark.ended stage (.error error) ∈ listener.ended stage (.error error) trace :=
      List.mem_append_right _ (List.mem_singleton.2 rfl)
    exact absurd hmem (h stage error)

theorem Sound.of_hear {stage : Stage} {events : List Event} {trace : Trace}
    (h : Sound (listener.hear stage events trace)) : Sound trace := by
  induction events generalizing trace with
  | nil => exact h
  | cons event events ih =>
    have hrest : Sound (listener.emitted stage event trace) := ih h
    exact hrest.of_append

/-- Hears what the stages beside the output stage emit. -/
def aside : Listener (List (Stage × Event)) where
  start := []
  emitted stage event heard := if stage = .output then heard else heard ++ [(stage, event)]
  ended _ _ heard := heard

theorem besides_emitted (stage : Stage) (event : Event) (trace : Trace) :
    besides (listener.emitted stage event trace) = aside.emitted stage event (besides trace) := by
  unfold besides listener aside
  by_cases hstage : stage = .output
  · simp [hstage]
  · simp [hstage]

theorem besides_ended (stage : Stage) (result : Result) (trace : Trace) :
    besides (listener.ended stage result trace) = besides trace := by
  simp [besides, listener]

theorem besides_hear (stage : Stage) (events : List Event) (trace : Trace) :
    besides (listener.hear stage events trace) = aside.hear stage events (besides trace) := by
  induction events generalizing trace with
  | nil => rfl
  | cons event events ih =>
    have hrest := ih (listener.emitted stage event trace)
    rw [besides_emitted] at hrest
    exact hrest

end Trace

/-! ## Following a rest beside the output stage -/

/-- A device with its trace, for someone who does not hear the output stage. -/
def Heard.besides (h : Heard Trace δ) : Heard (List (Stage × Event)) δ :=
  ⟨h.device, h.ear.besides⟩

/-- A call without the events that it hands over. -/
def Call.silent (call : Call δ) : Call δ := { call with events := [] }

/-- A call for someone who does not hear the output stage. -/
def Call.besides (call : Call (Heard Trace δ)) : Call (Heard (List (Stage × Event)) δ) :=
  (call.onDevice Heard.besides).silent

/-- Nobody beside the trace hears a stage end. -/
theorem Listener.besides_closing (stage : Stage) (rest : Rest (Heard Trace δ))
    (arguments : Arguments) (h : Heard Trace δ) :
    (Trace.listener.closing stage rest arguments h).besides = (rest arguments h).besides := by
  unfold Listener.closing Call.besides Call.onDevice Heard.besides
  dsimp only
  rw [Trace.besides_ended]

/-- As long as its trace stays sound, a rest does what another does, beside the output stage. -/
structure Rest.Follows (outer : Rest (Heard Trace δ))
    (inner : Rest (Heard (List (Stage × Event)) δ)) : Prop where
  /-- A trace that is sound now was sound before. -/
  sound : ∀ {arguments h}, (outer arguments h).device.ear.Sound → h.ear.Sound
  same : ∀ {arguments h}, (outer arguments h).device.ear.Sound →
    (outer arguments h).besides = (inner arguments h.besides).silent

namespace Rest.Follows

open Trace (listener aside)

variable {outer : Rest (Heard Trace δ)} {inner : Rest (Heard (List (Stage × Event)) δ)}

theorem hearing (stage : Stage) (rest : Rest δ) :
    Rest.Follows (listener.hearing stage rest) (aside.hearing stage rest) where
  sound h := Trace.Sound.of_hear h
  same {arguments w} _ := by
    unfold Listener.hearing Call.besides Call.onDevice Heard.besides
    dsimp only
    rw [Trace.besides_hear]

/-- A stage has ended well if its trace is sound, and nobody beside the trace hears its end. -/
theorem closing (hf : Rest.Follows outer inner) (stage : Stage) :
    Rest.Follows (listener.closing stage outer) (aside.closing stage inner) where
  sound {arguments w} h := hf.sound (Trace.Sound.of_append h)
  same {arguments w} h := by
    have hsame := hf.same (Trace.Sound.of_append h)
    rw [← Listener.besides_closing stage] at hsame
    exact hsame

/-! ### Layers -/

theorem sound_follow (hf : Rest.Follows outer inner) (stage : Stage) {course : Course}
    {w : Heard Trace δ} (h : (listener.follow stage outer course w).device.ear.Sound) :
    w.ear.Sound := by
  induction course generalizing w with
  | finish arguments result => exact h
  | emit event course ih =>
    have hemitted : Trace.Sound (listener.emitted stage event w.ear) := ih h
    exact hemitted.of_append
  | proceed arguments resume ih => exact hf.sound (ih _ _ h)

theorem follow (hf : Rest.Follows outer inner) (stage : Stage) {course : Course}
    {w : Heard Trace δ} (h : (listener.follow stage outer course w).device.ear.Sound) :
    (listener.follow stage outer course w).besides
      = (aside.follow stage inner course w.besides).silent := by
  induction course generalizing w with
  | finish arguments result => rfl
  | emit event course ih =>
    have hrest := ih h
    unfold Heard.besides at hrest
    rw [Trace.besides_emitted] at hrest
    exact hrest
  | proceed arguments resume ih =>
    -- the trace was sound when the rest came back, so the rest has followed
    have hcall := hf.same (hf.sound_follow stage h)
    have hdevice : (outer arguments w).device.besides = (inner arguments w.besides).device :=
      congrArg Call.device hcall
    have harguments : (outer arguments w).arguments = (inner arguments w.besides).arguments :=
      congrArg Call.arguments hcall
    have hresult : (outer arguments w).result = (inner arguments w.besides).result :=
      congrArg Call.result hcall
    calc (listener.follow stage outer (.proceed arguments resume) w).besides
        = (aside.follow stage inner
            (resume (outer arguments w).arguments (outer arguments w).result)
            (outer arguments w).device.besides).silent := ih _ _ h
      _ = (aside.follow stage inner (.proceed arguments resume) w.besides).silent := by
          rw [hdevice, harguments, hresult]
          rfl

theorem around (hf : Rest.Follows outer inner) (stage : Stage) (layer : Layer) :
    Rest.Follows (listener.around stage layer outer) (aside.around stage layer inner) := by
  have hfollow : Rest.Follows
      (fun arguments w => listener.follow stage outer (layer.course arguments) w)
      (fun arguments w => aside.follow stage inner (layer.course arguments) w) :=
    ⟨fun h => hf.sound_follow stage h, fun h => hf.follow stage h⟩
  exact hfollow.closing stage

theorem nest (hf : Rest.Follows outer inner) (decorators : List Layer) :
    Rest.Follows (listener.nest decorators outer) (aside.nest decorators inner) := by
  induction decorators with
  | nil => exact hf
  | cons layer layers ih => exact ih.around _ layer

/-! ### Autodetection -/

theorem sound_autodetect (hf : Rest.Follows outer inner) (t : DeviceType δ)
    {arguments : Arguments} {w : Heard Trace δ}
    (h : (Composed.autodetect (listener.type t) outer arguments w).device.ear.Sound) :
    w.ear.Sound := by
  unfold Composed.autodetect at h
  split at h
  · exact hf.sound h
  · dsimp only [Listener.type] at h
    split at h
    · exact Trace.Sound.of_hear (hf.sound h)
    · exact Trace.Sound.of_hear h

theorem autodetect (hf : Rest.Follows outer inner) (t : DeviceType δ) :
    Rest.Follows (Composed.autodetect (listener.type t) outer)
      (Composed.autodetect (aside.type t) inner) where
  sound h := hf.sound_autodetect t h
  same {arguments w} h := by
    have hear := Trace.besides_hear .guard (t.fetchInfo w.device).events w.ear
    have hidentified : (aside.type t).isIdentified w.besides
        = (listener.type t).isIdentified w := rfl
    unfold Composed.autodetect at h ⊢
    rw [hidentified]
    by_cases hknown : (listener.type t).isIdentified w = true
    · rw [if_pos hknown] at h ⊢
      rw [if_pos hknown]
      exact hf.same h
    · rw [if_neg hknown] at h ⊢
      rw [if_neg hknown]
      have hdevice : w.besides.device = w.device := rfl
      dsimp only [Listener.type] at h ⊢
      rw [hdevice]
      cases hresult : (t.fetchInfo w.device).result with
      | ok _ =>
        rw [hresult] at h
        have hrest := hf.same h
        unfold Heard.besides at hrest ⊢
        rw [hear] at hrest
        exact hrest
      | error error =>
        unfold Call.besides Heard.besides Call.onDevice
        dsimp only
        rw [hear]

end Rest.Follows

/-! ## What is left of a strategy -/

/-- Emits, and ends with these arguments and this outcome, or with an error. -/
inductive Course.Shows (arguments : Arguments) (outcome : Outcome) : Course → Prop where
  | done : Shows arguments outcome (.finish arguments (.ok outcome))
  | failed (arguments' : Arguments) (error : DispatchError) :
    Shows arguments outcome (.finish arguments' (.error error))
  | emit (event : Event) {course : Course} : Shows arguments outcome course →
    Shows arguments outcome (.emit event course)

/-- Emits, and lets the call proceed once with the arguments it came with, or ends with an error.
What succeeds is shown. -/
inductive Course.PassesOn (arguments : Arguments) : Course → Prop where
  | failed (arguments' : Arguments) (error : DispatchError) :
    PassesOn arguments (.finish arguments' (.error error))
  | emit (event : Event) {course : Course} : PassesOn arguments course →
    PassesOn arguments (.emit event course)
  | proceed {resume : Arguments → Result → Course} :
    (∀ arguments' outcome, Shows arguments' outcome (resume arguments' (.ok outcome))) →
    PassesOn arguments (.proceed arguments resume)

namespace Output

theorem shows_say {arguments : Arguments} {outcome : Outcome} {rest : Course} (message : String)
    (h : rest.Shows arguments outcome) : (say message rest).Shows arguments outcome := by
  unfold say
  dsimp only
  split
  · exact h
  · exact .emit _ h

theorem passesOn_say {arguments : Arguments} {rest : Course} (message : String)
    (h : rest.PassesOn arguments) : (say message rest).PassesOn arguments := by
  unfold say
  dsimp only
  split
  · exact h
  · exact .emit _ h

theorem shows_showText (post : Message) (arguments : Arguments) (outcome : Outcome) :
    (showText post arguments outcome).Shows arguments outcome := by
  unfold showText
  dsimp only
  split
  · exact .emit _ .done
  · split
    · exact shows_say _ .done
    · exact .failed _ _

/-- **What is left of a strategy**, whichever it is, is one call of the rest with lines around
it. -/
theorem passesOn (output : Output) (arguments : Arguments) :
    (output.layer.course arguments).PassesOn arguments := by
  cases output with
  | text pre post =>
    have hcourse : (text pre post).layer.course arguments = textCourse pre post arguments := rfl
    rw [hcourse, textCourse]
    cases pre.render ⟨arguments, none⟩ with
    | error error => exact .failed _ _
    | ok message =>
      exact passesOn_say message (.proceed fun arguments' outcome =>
        shows_showText post arguments' outcome)
  | json pretty => exact .proceed fun arguments' outcome => .emit _ .done

end Output

namespace Rest.Follows

open Trace (listener aside)

variable {outer : Rest (Heard Trace δ)} {inner : Rest (Heard (List (Stage × Event)) δ)}

/-- Nothing of what the output stage emits is heard beside it. -/
theorem besides_emitted_output (event : Event) (w : Heard Trace δ) :
    Heard.besides { w with ear := listener.emitted .output event w.ear } = w.besides := by
  unfold Heard.besides
  dsimp only
  rw [Trace.besides_emitted]
  rfl

theorem follow_shows {arguments : Arguments} {outcome : Outcome} {course : Course}
    (hcourse : course.Shows arguments outcome) (w : Heard Trace δ) {outcome' : Outcome}
    (hok : (listener.follow .output outer course w).result = .ok outcome') :
    (listener.follow .output outer course w).besides
      = ⟨w.besides, arguments, [], .ok outcome⟩ := by
  induction hcourse generalizing w with
  | done => rfl
  | failed arguments' error => cases hok
  | emit event _ ih =>
    rw [← besides_emitted_output event w]
    exact ih _ hok

theorem follow_passesOn (hf : Rest.Follows outer inner)
    (hends : ∀ {arguments h}, (outer arguments h).device.ear.Sound →
      ∃ outcome, (outer arguments h).result = .ok outcome)
    {arguments : Arguments} {course : Course} (hcourse : course.PassesOn arguments)
    {w : Heard Trace δ} (h : (listener.follow .output outer course w).device.ear.Sound)
    {outcome : Outcome} (hok : (listener.follow .output outer course w).result = .ok outcome) :
    (listener.follow .output outer course w).besides = (inner arguments w.besides).silent := by
  induction hcourse generalizing w with
  | failed arguments' error => cases hok
  | emit event _ ih =>
    rw [← besides_emitted_output event w]
    exact ih h hok
  | @proceed resume hresume =>
    have hcall : (outer arguments w).device.ear.Sound := hf.sound_follow .output h
    obtain ⟨outcome', hresult⟩ := hends hcall
    have hshown := hresume (outer arguments w).arguments outcome'
    rw [← hresult] at hshown
    calc (listener.follow .output outer (.proceed arguments resume) w).besides
        = ⟨(outer arguments w).device.besides, (outer arguments w).arguments, [],
            .ok outcome'⟩ := follow_shows hshown (outer arguments w).device hok
      _ = (outer arguments w).besides := by
          rw [← hresult]
          rfl
      _ = (inner arguments w.besides).silent := hf.same hcall

/-- **A strategy is not noticed beside the output stage**, unless a stage ends with an error. -/
theorem output (hf : Rest.Follows outer inner)
    (hends : ∀ {arguments h}, (outer arguments h).device.ear.Sound →
      ∃ outcome, (outer arguments h).result = .ok outcome) (strategy : Output) :
    Rest.Follows (listener.around .output strategy.layer outer) inner where
  sound h := hf.sound_follow .output (Trace.Sound.of_append h)
  same {arguments w} h := by
    obtain ⟨outcome, hok⟩ := Trace.Sound.exists_ok h
    unfold Listener.around
    rw [Listener.besides_closing]
    exact hf.follow_passesOn hends (strategy.passesOn arguments) (Trace.Sound.of_append h) hok

end Rest.Follows

/-! ## Commands in two contexts -/

namespace Composed

open Trace (listener aside)

/-- A call of a command in a context, with its trace. -/
def traced (d : Descriptor δ) (context : Context) (type : DeviceType δ) (arguments : Arguments)
    (device : δ) : Call (Heard Trace δ) :=
  heardCall listener d context type arguments ⟨device, []⟩

/-- The guarded method ends with the end of a stage, whether it is guarded or not. -/
theorem heardCore_eq_closing (d : Descriptor δ) (type : DeviceType δ) :
    ∃ stage rest, heardCore listener d type = listener.closing stage rest := by
  unfold heardCore
  by_cases hskip : d.skipsAutodetect = true
  · rw [if_pos hskip]
    exact ⟨_, _, rfl⟩
  · rw [if_neg hskip]
    exact ⟨_, _, rfl⟩

/-- So does the whole call: its outermost decorator ends it, or its strategy if it has none. -/
theorem heardCall_eq_closing (d : Descriptor δ) (context : Context) (type : DeviceType δ) :
    ∃ stage rest, heardCall listener d context type = listener.closing stage rest := by
  unfold heardCall
  cases d.decorators.reverse with
  | nil => exact ⟨_, _, rfl⟩
  | cons layer layers => exact ⟨_, _, rfl⟩

theorem exists_ok_of_eq_closing {rest : Rest (Heard Trace δ)}
    (hclosing : ∃ stage inner, rest = listener.closing stage inner) {arguments : Arguments}
    {w : Heard Trace δ} (h : (rest arguments w).device.ear.Sound) :
    ∃ outcome, (rest arguments w).result = .ok outcome := by
  obtain ⟨stage, inner, rfl⟩ := hclosing
  exact Trace.Sound.exists_ok h

theorem follows_heardCore (d : Descriptor δ) (type : DeviceType δ) :
    Rest.Follows (heardCore listener d type) (heardCore aside d type) := by
  have hmethod : Rest.Follows (listener.closing .method (listener.hearing .method d.method))
      (aside.closing .method (aside.hearing .method d.method)) :=
    (Rest.Follows.hearing .method d.method).closing .method
  unfold heardCore
  split
  · exact hmethod
  · exact (hmethod.autodetect type).closing .guard

/-- **A command follows itself without a strategy**, in every context. -/
theorem follows_heardCall (d : Descriptor δ) (context : Context) (type : DeviceType δ) :
    Rest.Follows (heardCall listener d context type)
      (aside.nest d.decorators.reverse (heardCore aside d type)) := by
  have houtput := (follows_heardCore d type).output
    (exists_ok_of_eq_closing (heardCore_eq_closing d type)) (output d context)
  exact houtput.nest d.decorators.reverse

/--
**The output strategy only affects output.**

A call and its trace: the trace holds the events of the call, and is beside the call, which is the
same without it. Let a command run in two contexts, which may ask for any two strategies, on the
same device and arguments, and let no stage end with an error in either run. Both calls give the
same outcome, leave the same device and the same arguments, and what the stages beside the output
stage emitted is the same in the same order: their events, line for line.
-/
theorem traced_besides (d : Descriptor δ) (type : DeviceType δ) (arguments : Arguments)
    (device : δ) :
    (∀ context,
        let call := (compose d context).call type arguments device
        (traced d context type arguments device).onDevice Heard.device = call
          ∧ (traced d context type arguments device).device.ear.events = call.events)
      ∧ ∀ context₁ context₂,
        let call₁ := (compose d context₁).call type arguments device
        let call₂ := (compose d context₂).call type arguments device
        let trace₁ := (traced d context₁ type arguments device).device.ear
        let trace₂ := (traced d context₂ type arguments device).device.ear
        trace₁.Sound → trace₂.Sound →
        (∃ outcome, call₁.result = .ok outcome ∧ call₂.result = .ok outcome)
          ∧ call₁.device = call₂.device ∧ call₁.arguments = call₂.arguments
          ∧ trace₁.besides = trace₂.besides := by
  have htrace (context : Context) : (traced d context type arguments device).onDevice Heard.device
      = (compose d context).call type arguments device :=
    simulates_heardCall listener d context type arguments ⟨device, []⟩
  refine ⟨fun context => ⟨htrace context, ?_⟩, fun context₁ context₂ => ?_⟩
  · have hevents : (traced d context type arguments device).device.ear.events
        = (traced d context type arguments device).events.foldl
          (fun events event => events ++ [event]) [] :=
      read_heardCall Trace.records_listener d context type arguments ⟨device, []⟩
    rw [← htrace context, hevents, List.foldl_append_eq_append, ← List.flatMap_def,
      List.flatMap_singleton']
    rfl
  · intro call₁ call₂ trace₁ trace₂ h₁ h₂
    -- both calls are compared with the one without a strategy
    have hbare (context : Context)
        (h : (traced d context type arguments device).device.ear.Sound) :
        (traced d context type arguments device).besides
          = (aside.nest d.decorators.reverse (heardCore aside d type) arguments
              ⟨device, []⟩).silent :=
      (follows_heardCall d context type).same h
    have hsame := (hbare context₁ h₁).trans (hbare context₂ h₂).symm
    obtain ⟨outcome, hok⟩ :=
      exists_ok_of_eq_closing (heardCall_eq_closing d context₁ type) h₁
    have hresult := congrArg (fun call => call.result) hsame
    have hdevice := congrArg (fun call => call.device.device) hsame
    have harguments := congrArg (fun call => call.arguments) hsame
    have hbesides := congrArg (fun call => call.device.ear) hsame
    unfold call₁ call₂
    rw [← htrace context₁, ← htrace context₂]
    exact ⟨⟨outcome, hok, hresult.symm.trans hok⟩, hdevice, harguments, hbesides⟩

/-- A command that counts twice, once with its count as a text and once as JSON. -/
theorem traced_besides_twice :
    let d : Descriptor Nat := .build "count"
      (fun arguments n => ⟨n + 1, arguments, [.line "counted"], .ok (.int n)⟩)
      [.decorator (Rehearsal.Decoration.twice.layer "twice"),
        .decorator (Rehearsal.Decoration.echo.layer "echo")]
    let type : DeviceType Nat :=
      ⟨"Counter", "counter", none, [], none, fun _ => 0, fun _ => none, fun _ => false,
        fun n => ⟨n, [.note "fetched"], .ok ()⟩⟩
    let text : Context := ⟨0, some (.text (.template "Counting") (.template "At \x7bresult\x7d"))⟩
    let json : Context := ⟨0, some (.json false)⟩
    let trace₁ := (traced d text type [] 0).device.ear
    let trace₂ := (traced d json type [] 0).device.ear
    (trace₁.Sound ∧ trace₂.Sound)
      ∧ Event.lines trace₁.events
        = ["<echo>", "Counting", "counted", "At 0", "Counting", "counted", "At 1", "</echo>"]
      ∧ Event.lines trace₂.events
        = ["<echo>", "counted", "0", "counted", "1", "</echo>"]
      ∧ trace₁.besides = trace₂.besides := by
  intro d type text json trace₁ trace₂
  have h₁ : trace₁.Sound := by decide +kernel
  have h₂ : trace₂.Sound := by decide +kernel
  obtain ⟨-, -, -, hbesides⟩ := (traced_besides d type [] 0).2 text json h₁ h₂
  refine ⟨⟨h₁, h₂⟩, ?_, ?_, hbesides⟩
  · decide +kernel
  · decide +kernel

end Composed

end Switchboard
