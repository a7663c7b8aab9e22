import Switchboard.Proofs.TextOutput
import Switchboard.Rehearsal.Decoration

/-!
# Decorators that change the arguments

Decorators stand outside of the output strategy, the last declared outermost. Those that only change
the arguments so form a chain: the last declared change comes first, and what the first declared one
leaves is what the first message is made from and the method starts with. `Change.chain` is that
chain, and a change that fails ends it.

That a change does not run is not to be seen of what the call returns, so a call is watched for the
layers it enters, each with its arguments (`Entrance`). The lemma that carries the rest is
`Layer.nestEntered_changes`: changes that succeed are entered one after the other, and then the call
is that of what stands inside, with the changed arguments.
-/

namespace Switchboard

variable {δ : Type}

/-! ## Chains of changes -/

namespace Change

/-- Changes by name, one after the other, the last declared first. -/
def chain (changes : List (String × Change)) : Change :=
  fun arguments => changes.foldrM (fun change arguments => change.2 arguments) arguments

/-- The arguments that changes are given, in the order of the list, up to the first that fails. -/
def given : List (String × Change) → Arguments → List Arguments
  | [], _ => []
  | change :: changes, arguments =>
    arguments ::
      match change.2 arguments with
      | .ok changed => given changes changed
      | .error _ => []

theorem chain_eq_foldlM (changes : List (String × Change)) (arguments : Arguments) :
    chain changes arguments
      = changes.reverse.foldlM (fun arguments change => change.2 arguments) arguments := rfl

/-- If changes succeed, the first does, and the others do with what it left. -/
theorem exists_of_foldlM_cons {change : String × Change} {changes : List (String × Change)}
    {arguments changed : Arguments}
    (h : (change :: changes).foldlM (fun arguments change => change.2 arguments) arguments
      = .ok changed) :
    ∃ next, change.2 arguments = .ok next
      ∧ changes.foldlM (fun arguments change => change.2 arguments) next = .ok changed := by
  rw [List.foldlM_cons] at h
  cases hchange : change.2 arguments with
  | error failed =>
    rw [hchange] at h
    cases h
  | ok next =>
    rw [hchange] at h
    exact ⟨next, rfl, h⟩

/-- Changes that succeed are all given arguments. -/
theorem length_given {changes : List (String × Change)} {arguments changed : Arguments}
    (h : changes.foldlM (fun arguments change => change.2 arguments) arguments = .ok changed) :
    (given changes arguments).length = changes.length := by
  induction changes generalizing arguments with
  | nil => rfl
  | cons change changes ih =>
    obtain ⟨next, hchange, hrest⟩ := exists_of_foldlM_cons h
    rw [given, hchange, List.length_cons, List.length_cons, ih hrest]

end Change

namespace Layer

theorem around_mapArguments_of_ok {change : Change} {arguments changed : Arguments}
    (h : change arguments = .ok changed) (name : String) (rest : Rest δ) (device : δ) :
    (mapArguments name change).around rest arguments device = rest changed device := by
  have hcourse : (mapArguments name change).course arguments = .proceed changed .finish := by
    unfold mapArguments
    dsimp only
    rw [h]
  rw [around, hcourse, Course.run, Course.run, Call.ended, Call.after, List.append_nil]

theorem around_mapArguments_of_error {change : Change} {arguments : Arguments}
    {failed : FailedChange} (h : change arguments = .error failed) (name : String)
    (rest : Rest δ) (device : δ) :
    (mapArguments name change).around rest arguments device
      = .ended device failed.arguments (.error failed.error) := by
  have hcourse : (mapArguments name change).course arguments
      = .finish failed.arguments (.error failed.error) := by
    unfold mapArguments
    dsimp only
    rw [h]
  rw [around, hcourse, Course.run]

end Layer

/-! ## What a call enters -/

/-- What a call enters. -/
inductive Entrance where
  /-- The layer at a depth, with these arguments. -/
  | layer (depth : Nat) (arguments : Arguments)
  /-- Information is fetched from the device. -/
  | fetch
  /-- The method starts with these arguments. -/
  | method (arguments : Arguments)

namespace Entrance

/-- Layers entered one after the other from a depth on. -/
def layers (depth : Nat) (given : List Arguments) : List Entrance :=
  (given.zipIdx depth).map fun entry => layer entry.2 entry.1

theorem layers_cons (depth : Nat) (arguments : Arguments) (given : List Arguments) :
    layers depth (arguments :: given) = layer depth arguments :: layers (depth + 1) given := rfl

theorem layers_append (depth : Nat) (given given' : List Arguments) :
    layers depth (given ++ given')
      = layers depth given ++ layers (depth + given.length) given' := by
  unfold layers
  rw [List.zipIdx_append, List.map_append, Nat.add_comm]

end Entrance

namespace Layer

/-- Layers around a rest, from a depth on, each with a mark when it is entered. -/
def nestEntered : Nat → List Layer → Rest (Watched Entrance δ) → Rest (Watched Entrance δ)
  | _, [], rest => rest
  | depth, layer :: layers, rest =>
    Watched.marking (.layer depth) (layer.around (nestEntered (depth + 1) layers rest))

theorem simulates_nestEntered {rest : Rest (Watched Entrance δ)} {inner : Rest δ}
    (h : Simulates Watched.device rest inner) (depth : Nat) (layers : List Layer) :
    Simulates Watched.device (nestEntered depth layers rest) (nest layers inner) := by
  induction layers generalizing depth with
  | nil => exact h
  | cons layer layers ih => exact Watched.simulates_marking _ ((ih (depth + 1)).around layer)

/-- Changes as layers. -/
def changing (changes : List (String × Change)) : List Layer :=
  changes.map fun change => mapArguments change.1 change.2

/-- **Changes that succeed** are entered one after the other, each with what the one before it left,
and the call goes on with what the last of them left. -/
theorem nestEntered_changes {changes : List (String × Change)} {arguments changed : Arguments}
    (h : changes.foldlM (fun arguments change => change.2 arguments) arguments = .ok changed)
    (depth : Nat) (layers : List Layer) (rest : Rest (Watched Entrance δ))
    (w : Watched Entrance δ) :
    nestEntered depth (changing changes ++ layers) rest arguments w
      = nestEntered (depth + changes.length) layers rest changed
          ⟨w.device, w.marks ++ Entrance.layers depth (Change.given changes arguments)⟩ := by
  induction changes generalizing depth arguments w with
  | nil =>
    cases h
    rw [Change.given, Entrance.layers, List.zipIdx_nil, List.map_nil, List.append_nil]
    rfl
  | cons change changes ih =>
    obtain ⟨next, hchange, hrest⟩ := Change.exists_of_foldlM_cons h
    -- the first change leaves its mark and is not seen again: it only passes its arguments on
    have hstep : nestEntered depth (changing (change :: changes) ++ layers) rest arguments w
        = nestEntered (depth + 1) (changing changes ++ layers) rest next
            (w.mark (.layer depth arguments)) :=
      around_mapArguments_of_ok hchange change.1 _ _
    rw [hstep, ih hrest, Change.given, hchange, Entrance.layers_cons, List.length_cons]
    simp only [Watched.mark_device, Watched.mark_marks, List.append_assoc, List.cons_append,
      List.nil_append, Nat.add_assoc, Nat.add_comm 1]

/-- **The first change that fails** ends the call, before anything inside of it is entered. -/
theorem nestEntered_failed {outer : List (String × Change)} {arguments reached : Arguments}
    (h : outer.foldlM (fun arguments change => change.2 arguments) arguments = .ok reached)
    {change : String × Change} {failed : FailedChange} (hfailed : change.2 reached = .error failed)
    (layers : List Layer) (rest : Rest (Watched Entrance δ)) (device : δ) :
    nestEntered 0 (changing outer ++ mapArguments change.1 change.2 :: layers) rest arguments
        (.fresh device)
      = .ended ⟨device, Entrance.layers 0 (Change.given outer arguments ++ [reached])⟩
          failed.arguments (.error failed.error) := by
  rw [nestEntered_changes h, nestEntered, Watched.marking,
    around_mapArguments_of_error hfailed, Entrance.layers_append, Change.length_given h]
  rfl

end Layer

/-! ## Commands -/

/-- A call with text output begins with the first message, and ends where there is none. -/
theorem Output.text_begins (pre post : Message) (rest : Rest δ) (arguments : Arguments)
    (device : δ) :
    let call := (text pre post).layer.around rest arguments device
    match pre.render ⟨arguments, none⟩ with
    | .ok message => said message <+: call.events
    | .error error => call = .ended device arguments (.error (.usage error)) := by
  dsimp only
  cases hpre : pre.render ⟨arguments, none⟩ with
  | error error => exact textCourse_run_of_error hpre rest device
  | ok message =>
    obtain ⟨closing, result, -, hcall⟩ := closes_around post hpre rest device
    dsimp only
    rw [hcall]
    exact List.prefix_append _ _

/-- A call with an output strategy leaves the device as it was or as the rest of the call leaves it.
-/
theorem Output.around_device (output : Output) (rest : Rest δ) (arguments : Arguments)
    (device : δ) :
    (output.layer.around rest arguments device).device = device
      ∨ (output.layer.around rest arguments device).device = (rest arguments device).device := by
  cases output with
  | json pretty => exact Or.inr (shown_around pretty rest arguments device).device_eq
  | text pre post =>
    cases hpre : pre.render ⟨arguments, none⟩ with
    | error error =>
      have hends := text_begins pre post rest arguments device
      rw [hpre] at hends
      exact Or.inl (congrArg Call.device hends)
    | ok first =>
      obtain ⟨closing, result, -, hcall⟩ := closes_around post hpre rest device
      rw [hcall]
      exact Or.inr rfl

namespace Composed

/-- The guarded method, with marks for fetching and for the method. -/
def enteredCore (c : Composed δ) (type : DeviceType δ) : Rest (Watched Entrance δ) :=
  let method := Watched.marking Entrance.method (Watched.part.lift c.method)
  if c.autodetects then autodetect (Watched.type [Entrance.fetch] type) method else method

/-- A call of the command with marks for all that it enters. -/
def enteredCall (c : Composed δ) (type : DeviceType δ) : Rest (Watched Entrance δ) :=
  Layer.nestEntered 0 c.layers (c.enteredCore type)

theorem simulates_enteredCore (c : Composed δ) (type : DeviceType δ) :
    Simulates Watched.device (c.enteredCore type) (c.core type) := by
  have hmethod : Simulates Watched.device
      (Watched.marking Entrance.method (Watched.part.lift c.method)) c.method :=
    Watched.simulates_marking _ (Watched.simulates_lift c.method)
  unfold enteredCore core
  cases c.autodetects with
  | true => exact hmethod.autodetect (Watched.delegates_type [Entrance.fetch] type)
  | false => exact hmethod

/-- **A call with these marks is the call**, beside its device. -/
theorem simulates_enteredCall (c : Composed δ) (type : DeviceType δ) :
    Simulates Watched.device (c.enteredCall type) (c.call type) := by
  rw [call_eq_nest]
  exact Layer.simulates_nestEntered (c.simulates_enteredCore type) 0 c.layers

/-- Beneath the layers nothing is entered but fetching and the method, with the arguments that
reach it. -/
theorem enteredCore_marks (c : Composed δ) (type : DeviceType δ) (arguments : Arguments)
    (w : Watched Entrance δ) :
    ∃ below, (c.enteredCore type arguments w).device.marks = w.marks ++ below
      ∧ ∀ m ∈ below, m = .fetch ∨ m = .method arguments := by
  unfold enteredCore
  split
  · obtain ⟨new, hmarks, hnew⟩ := Watched.autodetect_marks [Entrance.fetch] Entrance.method type
      c.method arguments w
    refine ⟨new, hmarks, ?_⟩
    rcases hnew with rfl | rfl | rfl <;> simp
  · exact ⟨[.method arguments], rfl, by simp⟩

/-- An output strategy is left with no other marks than those of what stands beneath it. -/
theorem around_enteredCore_marks (c : Composed δ) (output : Output) (type : DeviceType δ)
    (arguments : Arguments) (w : Watched Entrance δ) :
    ∃ below, (output.layer.around (c.enteredCore type) arguments w).device.marks = w.marks ++ below
      ∧ ∀ m ∈ below, m = .fetch ∨ m = .method arguments := by
  rcases output.around_device (c.enteredCore type) arguments w with hdevice | hdevice
  · rw [hdevice]
    exact ⟨[], (List.append_nil _).symm, by simp⟩
  · rw [hdevice]
    exact c.enteredCore_marks type arguments w

/-- The layers of a command whose decorators are changes. -/
theorem layers_of_changes {d : Descriptor δ} {changes : List (String × Change)}
    (hd : d.decorators = Layer.changing changes) (context : Context) :
    (compose d context).layers
      = Layer.changing changes.reverse ++ [(output d context).layer] := by
  unfold compose Layer.changing
  rw [hd, Layer.changing, List.map_reverse]

/-- If all changes succeed, the strategy is entered beneath them, at the depth of their number. -/
theorem enteredCall_of_chain {d : Descriptor δ} {changes : List (String × Change)}
    (hd : d.decorators = Layer.changing changes) (context : Context) (type : DeviceType δ)
    {arguments changed : Arguments} (h : Change.chain changes arguments = .ok changed)
    (device : δ) :
    (compose d context).enteredCall type arguments (.fresh device)
      = (output d context).layer.around ((compose d context).enteredCore type) changed
          ⟨device, Entrance.layers 0 (Change.given changes.reverse arguments ++ [changed])⟩ := by
  have hfold := (Change.chain_eq_foldlM changes arguments).symm.trans h
  rw [enteredCall, layers_of_changes hd, Layer.nestEntered_changes hfold, Entrance.layers_append,
    Change.length_given hfold]
  rfl

/-- A change that fails is the last layer that is entered. -/
theorem enteredCall_of_failed {d : Descriptor δ} {inner outer : List (String × Change)}
    {change : String × Change} (hd : d.decorators = Layer.changing (inner ++ change :: outer))
    (context : Context) (type : DeviceType δ) {arguments reached : Arguments}
    (h : Change.chain outer arguments = .ok reached) {failed : FailedChange}
    (hfailed : change.2 reached = .error failed) (device : δ) :
    (compose d context).enteredCall type arguments (.fresh device)
      = .ended ⟨device, Entrance.layers 0 (Change.given outer.reverse arguments ++ [reached])⟩
          failed.arguments (.error failed.error) := by
  have hfold := (Change.chain_eq_foldlM outer arguments).symm.trans h
  have hlayers : (compose d context).layers = Layer.changing outer.reverse
      ++ Layer.mapArguments change.1 change.2
        :: (Layer.changing inner.reverse ++ [(output d context).layer]) := by
    rw [layers_of_changes hd]
    simp [Layer.changing]
  rw [enteredCall, hlayers, Layer.nestEntered_failed hfold hfailed]

/--
**Changes of the arguments chain.**

Of a command whose decorators only change the arguments, a call enters the changes one after the
other, the last declared first. If they all succeed, it is the call of the output strategy around
the guarded method with the arguments that the chain leaves: the first message is made from these,
and the method starts with no others. The first change that fails ends the call with its error; then
nothing is told, the device is as before, and nothing that stands inside of the change is entered.
-/
theorem call_of_changes {d : Descriptor δ} {changes : List (String × Change)}
    (hd : d.decorators = Layer.changing changes) (context : Context) (type : DeviceType δ)
    (arguments : Arguments) (device : δ) :
    let c := compose d context
    let call := c.call type arguments device
    let entered := c.enteredCall type arguments (.fresh device)
    entered.onDevice Watched.device = call
      ∧ (∀ changed, Change.chain changes arguments = .ok changed →
        call = (output d context).layer.around (c.core type) changed device
          ∧ (∀ pre post, output d context = .text pre post →
            match pre.render ⟨changed, none⟩ with
            | .ok message => Output.said message <+: call.events
            | .error error => call = .ended device changed (.error (.usage error)))
          ∧ (Change.given changes.reverse arguments).length = changes.length
          ∧ ∃ below, entered.device.marks
              = Entrance.layers 0 (Change.given changes.reverse arguments ++ [changed]) ++ below
            ∧ ∀ m ∈ below, m = .fetch ∨ m = .method changed)
      ∧ ∀ inner change outer reached failed, changes = inner ++ change :: outer →
        Change.chain outer arguments = .ok reached → change.2 reached = .error failed →
        call = ⟨device, failed.arguments, [], .error failed.error⟩
          ∧ (Change.given outer.reverse arguments).length = outer.length
          ∧ entered.device.marks
            = Entrance.layers 0 (Change.given outer.reverse arguments ++ [reached]) := by
  intro c call entered
  have hview : entered.onDevice Watched.device = call :=
    c.simulates_enteredCall type arguments (.fresh device)
  refine ⟨hview, fun changed hchain => ?_, ?_⟩
  · -- all changes succeed: what is left of the call is the strategy around the method
    have hentered : entered = (output d context).layer.around (c.enteredCore type) changed
        ⟨device, Entrance.layers 0 (Change.given changes.reverse arguments ++ [changed])⟩ :=
      enteredCall_of_chain hd context type hchain device
    have hcall : call = (output d context).layer.around (c.core type) changed device := by
      rw [← hview, hentered]
      exact (c.simulates_enteredCore type).around (output d context).layer changed ⟨device, _⟩
    refine ⟨hcall, fun pre post houtput => ?_,
      (Change.length_given hchain).trans List.length_reverse, ?_⟩
    · rw [hcall, houtput]
      exact Output.text_begins pre post (c.core type) changed device
    · rw [hentered]
      exact c.around_enteredCore_marks (output d context) type changed _
  · -- the changes declared after the failing one succeed, those declared before it do not run
    rintro inner change outer reached failed rfl hchain hfailed
    have hentered : entered = .ended _ failed.arguments (.error failed.error) :=
      enteredCall_of_failed hd context type hchain hfailed device
    refine ⟨?_, (Change.length_given hchain).trans List.length_reverse, ?_⟩
    · rw [← hview, hentered]
      rfl
    · rw [hentered]
      rfl

/-- Two changes that each put their number behind an argument. -/
def trail : List (String × Change) :=
  ["1", "2"].map fun text =>
    (text, Rehearsal.Decoration.allOrNothing fun arguments =>
      (Arguments.requireText "trail" arguments).map fun trail =>
        Entries.insert "trail" (.string (trail ++ text)) arguments)

/-- A command that tells its trail. -/
def trailCommand : Descriptor Nat :=
  ⟨"walk", fun arguments calls => .ended (calls + 1) arguments (.ok .unit), Layer.changing trail,
    some (.text (.template "By \x7btrail\x7d") .empty), [], [], false⟩

/-- The last declared change comes first; without the argument it fails, and nothing happens. -/
theorem call_of_changes_trail :
    let c := compose trailCommand ⟨0, none⟩
    trailCommand.decorators = Layer.changing trail
      ∧ Change.chain trail [("trail", .string "")] = .ok [("trail", .string "21")]
      ∧ [.line "By 21"] <+: (c.call countingType [("trail", .string "")] 0).events
      ∧ c.call countingType [] 0 = ⟨0, [], [], .error (.usage (.missingArgument "trail"))⟩ := by
  intro c
  have hd : trailCommand.decorators = Layer.changing trail := rfl
  have hchain : Change.chain trail [("trail", .string "")] = .ok [("trail", .string "21")] := rfl
  have hsplit : trail = [trail[0]] ++ trail[1] :: [] := rfl
  obtain ⟨-, hchanged, -⟩ := call_of_changes hd ⟨0, none⟩ countingType [("trail", .string "")] 0
  obtain ⟨-, -, hfailed⟩ := call_of_changes hd ⟨0, none⟩ countingType [] 0
  exact ⟨hd, hchain, (hchanged _ hchain).2.1 (.template "By \x7btrail\x7d") .empty rfl,
    (hfailed _ _ [] [] ⟨[], .usage (.missingArgument "trail")⟩ hsplit rfl rfl).1⟩

end Composed

end Switchboard
