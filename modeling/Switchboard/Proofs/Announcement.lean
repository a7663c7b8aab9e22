import Switchboard.Proofs.Literal.Loosening
import Switchboard.Proofs.LowerCase
import Switchboard.Proofs.Strategies
import Switchboard.Proofs.Template.Grammar

/-!
# Announcements

A command without an output strategy tells its name before the call and shows the result after it.
The name is put into a template, and the template is then scanned like any other: braces in the name
are read as places. So a name without braces comes out as it is written
(`Template.render_of_plain`), and of a name with braces at least one is lost, unless the call is
refused (`Template.braces_render`).

`call_announced` says both of every name that a command can be built with. Lowering the name makes
no difference, since it neither makes nor removes braces (`Text.plain_lowerString`).
-/

namespace Switchboard

variable {δ : Type}

/-! ## Braces -/

namespace Template

/-- Whether a character has a meaning in templates. -/
def isBrace (c : Char) : Bool := c == '{' || c == '}'

/-- How many braces a text has. -/
def braces (text : List Char) : Nat := text.countP isBrace

/-- A text without braces. -/
def Plain (text : String) : Prop := ∀ c ∈ text.toList, c ≠ '{' ∧ c ≠ '}'

instance (text : String) : Decidable (Plain text) :=
  inferInstanceAs (Decidable (∀ c ∈ text.toList, c ≠ '{' ∧ c ≠ '}'))

theorem isBrace_iff (c : Char) : isBrace c = true ↔ c = '{' ∨ c = '}' := by
  simp [isBrace]

theorem isBrace_eq_false_iff (c : Char) : isBrace c = false ↔ c ≠ '{' ∧ c ≠ '}' := by
  simp [isBrace]

theorem braces_append (s t : List Char) : braces (s ++ t) = braces s + braces t :=
  List.countP_append

theorem braces_cons (c : Char) (s : List Char) :
    braces (c :: s) = braces s + if isBrace c then 1 else 0 :=
  List.countP_cons

theorem plain_iff (text : String) : Plain text ↔ braces text.toList = 0 := by
  simp only [Plain, braces, List.countP_eq_zero, Bool.not_eq_true, isBrace_eq_false_iff]

theorem plain_iff_not_mem (text : String) :
    Plain text ↔ '{' ∉ text.toList ∧ '}' ∉ text.toList := by
  unfold Plain
  grind

/-- Blanks are no braces. -/
theorem braces_of_blank {s : List Char} (h : s.all Text.isBlank = true) : braces s = 0 := by
  refine List.countP_eq_zero.2 fun c hc hbrace => ?_
  have hblank := List.all_eq_true.1 h c hc
  rcases (isBrace_iff c).1 hbrace with rfl | rfl
  · exact absurd hblank (by decide)
  · exact absurd hblank (by decide)

/-- Trimming takes no braces away. -/
theorem braces_trim (s : List Char) : braces (Text.trim s) = braces s := by
  obtain ⟨a, b, hs, ha, hb⟩ := Text.exists_padding s
  conv_rhs => rw [hs]
  rw [braces_append, braces_append, braces_of_blank ha, braces_of_blank hb]
  omega

/-- How many of the segments are braces. -/
def braceSegments : List Segment → Nat
  | [] => 0
  | .char c :: rest => braceSegments rest + if isBrace c then 1 else 0
  | .place _ :: rest => braceSegments rest

/-- Braces that were read and are not in a segment yet. -/
def State.pending : State → Nat
  | .opened | .closed => 1
  | .outside | .inside _ => 0

/-- **Two braces for one.** In a template without a fault a brace is written twice. -/
theorem braceSegments_scanFrom (state : State) (s : List Char)
    (h : (scanFrom state s).2 = none) :
    2 * braceSegments (scanFrom state s).1 ≤ braces s + state.pending := by
  fun_induction scanFrom state s with
  | case1 => exact Nat.zero_le _
  | case5 | case9 | case11 | case12 => exact absurd h (by simp)
  | case2 rest ih | case3 rest _ ih =>
    -- the brace that is read is pending from here on
    have hstep := ih h
    simpa [braces_cons, State.pending, isBrace] using hstep
  | case6 rest ih | case10 rest ih =>
    have hstep := ih h
    simp only [consSegment, braceSegments, braces_cons, State.pending, isBrace] at hstep ⊢
    simp
    omega
  | case4 c rest hopen hclose ih =>
    have hstep := ih h
    have hc : isBrace c = false := (isBrace_eq_false_iff c).2 ⟨hopen, hclose⟩
    simpa [consSegment, braceSegments, braces_cons, hc] using hstep
  | case7 _ _ ih | case8 _ _ _ _ ih | case13 _ _ ih | case14 _ _ _ _ ih =>
    -- inside a place braces are read and lost
    have hstep := ih h
    simp only [consSegment, braceSegments, braces_cons, State.pending] at hstep ⊢
    omega

/-- What is filled in without braces adds none. -/
theorem braces_fill {lookup : String → Option String}
    (hlookup : ∀ name value, lookup name = some value → Plain value) {segments : List Segment}
    {text : List Char} (h : fill lookup segments = .ok text) :
    braces text = braceSegments segments := by
  induction segments generalizing text with
  | nil =>
    cases h
    rfl
  | cons segment segments ih =>
    obtain ⟨front, rest, hfront, hrest, rfl⟩ := fill_cons_eq_ok_iff.1 h
    rw [braces_append, ih hrest]
    cases segment with
    | char c =>
      cases hfront
      rw [braces_cons, braceSegments, braces, List.countP_nil]
      omega
    | place inside =>
      obtain ⟨value, hvalue, rfl⟩ := Option.map_eq_some_iff.1 hfront
      rw [(plain_iff value).1 (hlookup _ _ hvalue), Nat.zero_add]
      rfl

/-- **A template with braces loses braces**, where what is filled in has none. -/
theorem braces_render {template text : String} {lookup : String → Option String}
    (hlookup : ∀ name value, lookup name = some value → Plain value)
    (h : render template lookup = .ok text) (hbraces : ¬ Plain template) :
    braces text.toList < braces template.toList := by
  obtain ⟨hfault, hfill⟩ := render_eq_ok_iff.1 h
  have hhalf := braceSegments_scanFrom .outside template.toList hfault
  have htext := braces_fill hlookup hfill
  have hpos : braces template.toList ≠ 0 := fun hzero => hbraces ((plain_iff template).2 hzero)
  rw [scan] at htext
  simp only [State.pending] at hhalf
  omega

theorem fill_chars (lookup : String → Option String) (text : List Char) :
    fill lookup (text.map .char) = .ok text := by
  induction text with
  | nil => rfl
  | cons c text ih =>
    rw [List.map_cons, fill, ih]
    rfl

/-- A template without braces is its own text. -/
theorem render_of_plain {template : String} (h : Plain template)
    (lookup : String → Option String) : render template lookup = .ok template := by
  rw [render_eq_ok_iff, scan_of_plain h]
  exact ⟨rfl, fill_chars lookup template.toList⟩

end Template

/-! ## Braces in lower case -/

namespace Text

/-- Lowering a character makes a brace of a brace only. -/
theorem mem_lowerChar_iff {b : Char} (hb : b = '{' ∨ b = '}') (c : Char) :
    b ∈ lowerChar c ↔ c = b := by
  constructor
  · refine eq_of_mem_lowerChar ?_
    rcases hb with rfl | rfl <;> decide
  · rintro rfl
    rcases hb with rfl | rfl <;> decide +kernel

theorem mem_lowerAfter_iff {b : Char} (hb : b = '{' ∨ b = '}') (before s : List Char) :
    b ∈ lowerAfter before s ↔ b ∈ s := by
  induction s generalizing before with
  | nil => rfl
  | cons c s ih =>
    rw [lowerAfter, List.mem_append, List.mem_cons, ih]
    refine or_congr_left ?_
    by_cases hsigma : c = 'Σ'
    · -- neither form of the sigma is a brace, and the sigma is none
      subst hsigma
      rcases hb with rfl | rfl <;> simp <;> split <;> decide
    · rw [if_neg (by simpa using hsigma), mem_lowerChar_iff hb]
      exact eq_comm

/-- Lowering a text neither makes nor removes braces. -/
theorem plain_lowerString (s : String) : Template.Plain (lowerString s) ↔ Template.Plain s := by
  rw [Template.plain_iff_not_mem, Template.plain_iff_not_mem, lowerString, String.toList_ofList,
    lower, mem_lowerAfter_iff (Or.inl rfl), mem_lowerAfter_iff (Or.inr rfl)]

end Text

/-! ## Messages as events -/

namespace Output

/-- The line of a message, unless nothing is left of it without the blanks around it. -/
def said (message : String) : List Event :=
  let text := Text.trimString message
  if text.isEmpty then [] else [.line text]

/-- What is shown of an outcome after an announcement: the display it brings along, or its text. -/
def shown (outcome : Outcome) : List Event :=
  match outcome.display? with
  | some display => [.line display]
  | none => said outcome.render

theorem say_run (message : String) (course : Course) (rest : Rest δ) (device : δ) :
    (say message course).run rest device = (course.run rest device).after (said message) := by
  unfold say said
  dsimp only
  split <;> rfl

/-- The second message of an announcement is the outcome. -/
theorem render_result (arguments : Arguments) (outcome : Outcome) :
    (Message.ofTemplate "\x7bresult\x7d").render ⟨arguments, some outcome⟩
      = .ok outcome.render := by
  have hfill : Template.fill (MessageSource.field? ⟨arguments, some outcome⟩)
      [.place "result".toList] = .ok (outcome.render.toList ++ []) := rfl
  refine Template.render_eq_ok_iff.2 ⟨rfl, hfill.trans ?_⟩
  rw [List.append_nil]

theorem showText_run_result (arguments : Arguments) (outcome : Outcome) (rest : Rest δ)
    (device : δ) :
    (showText (.ofTemplate "\x7bresult\x7d") arguments outcome).run rest device
      = ⟨device, arguments, shown outcome, .ok outcome⟩ := by
  have hcomposed : (Message.ofTemplate "\x7bresult\x7d").isComposed = false := rfl
  unfold showText shown
  rw [hcomposed, render_result]
  cases outcome.display? with
  | some display => rfl
  | none =>
    simp only [Option.filter_none]
    rw [say_run, Course.run, Call.after, Call.ended, List.append_nil]

/-- The template that tells the name of a command is never empty. -/
theorem ofTemplate_running (command : String) :
    Message.ofTemplate ("Running command " ++ command)
      = .template ("Running command " ++ command) := by
  refine if_neg fun hempty => ?_
  rw [String.isEmpty_iff] at hempty
  have hlist := congrArg String.toList hempty
  rw [String.toList_append] at hlist
  exact absurd hlist (by simp)

/-- What is left of a message that begins with a character other than a blank is one line. -/
theorem said_of_head {message : String} {c : Char} {text : List Char}
    (hmessage : message.toList = c :: text) (hc : Text.isBlank c = false) :
    said message = [.line (Text.trimString message)] := by
  refine if_neg fun hempty => ?_
  obtain ⟨a, b, hs, ha, hb⟩ := Text.exists_padding message.toList
  have htrim : Text.trim message.toList = [] := by
    rw [String.isEmpty_iff] at hempty
    simpa [Text.trimString] using congrArg String.toList hempty
  have hblank : message.toList.all Text.isBlank = true := by
    rw [hs, htrim, List.append_nil, List.all_append, ha, hb]
    rfl
  rw [hmessage, List.all_cons, hc] at hblank
  exact absurd hblank (by simp)

/-- Whatever is filled in, the message begins as it is written. -/
theorem head_of_running {command message : String} {lookup : String → Option String}
    (h : Template.render ("Running command " ++ command) lookup = .ok message) :
    ∃ text, message.toList = 'R' :: text := by
  obtain ⟨-, hfill⟩ := Template.render_eq_ok_iff.1 h
  have hscan : Template.scan ("Running command " ++ command).toList
      = Template.consSegment (.char 'R')
        (Template.scan ("unning command ".toList ++ command.toList)) := by
    rw [String.toList_append]
    rfl
  rw [hscan, Template.consSegment] at hfill
  obtain ⟨front, text, hfront, -, htext⟩ := Template.fill_cons_eq_ok_iff.1 hfill
  cases hfront
  exact ⟨text, htext⟩

/-- A call that shows a line, then what its core shows, then the outcome. -/
def announced (line : String) (core : Call δ) (outcome : Outcome) : Call δ :=
  { core with events := .line line :: core.events ++ shown outcome }

/-- **A call under an announcement** whose template can be filled in. -/
theorem around_announce_of_ok {command message : String} {arguments : Arguments} {rest : Rest δ}
    {device : δ} {outcome : Outcome}
    (hpre : Template.render ("Running command " ++ command) (MessageSource.field? ⟨arguments, none⟩)
      = .ok message)
    (hrest : (rest arguments device).result = .ok outcome) :
    (announce command).layer.around rest arguments device
      = announced (Text.trimString message) (rest arguments device) outcome := by
  obtain ⟨text, htext⟩ := head_of_running hpre
  have hcourse : (announce command).layer.around rest arguments device
      = (textCourse (.ofTemplate ("Running command " ++ command)) (.ofTemplate "\x7bresult\x7d")
          arguments).run rest device := rfl
  have hmessage : (Message.ofTemplate ("Running command " ++ command)).render ⟨arguments, none⟩
      = .ok message := by
    rw [ofTemplate_running]
    exact hpre
  rw [hcourse, textCourse, hmessage]
  dsimp only
  rw [say_run, said_of_head htext (by decide), Course.run, hrest]
  dsimp only
  rw [showText_run_result, Call.after, Call.after, announced, hrest]
  rfl

theorem around_announce_of_error {command : String} {arguments : Arguments} {error : UsageError}
    (hpre : Template.render ("Running command " ++ command) (MessageSource.field? ⟨arguments, none⟩)
      = .error error) (rest : Rest δ) (device : δ) :
    (announce command).layer.around rest arguments device
      = .ended device arguments (.error (.usage error)) := by
  refine textCourse_run_of_error ?_ rest device
  rw [ofTemplate_running]
  exact hpre

end Output

/-! ## Calls of a command without a strategy -/

namespace Composed

theorem name_build (name : String) (method : Rest δ) (declarations : List Declaration) :
    (Descriptor.build name method declarations).name = Text.lowerString name := by
  have hdeclare (d : Descriptor δ) (declaration : Declaration) :
      (d.declare declaration).name = d.name := by
    cases declaration with
    | about text => rw [Descriptor.declare]; split <;> rfl
    | _ => rfl
  have hfinish (d : Descriptor δ) : d.finish.name = d.name := by
    unfold Descriptor.finish
    split <;> rfl
  have hfold (d : Descriptor δ) : (declarations.foldl Descriptor.declare d).name = d.name := by
    induction declarations generalizing d with
    | nil => rfl
    | cons declaration declarations ih => exact (ih _).trans (hdeclare d declaration)
  exact (hfinish _).trans (hfold _)

/-- The line that announces a command. -/
def announcement (name : String) : String :=
  Text.trimString ("Running command " ++ Text.lowerString name)

/-- The template of an announcement has the braces of the name. -/
theorem plain_running (name : String) :
    Template.Plain ("Running command " ++ Text.lowerString name) ↔ Template.Plain name := by
  have hprefix : Template.braces "Running command ".toList = 0 := by decide
  rw [Template.plain_iff, String.toList_append, Template.braces_append, hprefix, Nat.zero_add,
    ← Template.plain_iff, Text.plain_lowerString]

/-- Before a call only arguments have a text in messages. -/
theorem plain_field? {arguments : Arguments}
    (h : ∀ argument ∈ arguments, Template.Plain argument.2.plainText) {field value : String}
    (hvalue : MessageSource.field? ⟨arguments, none⟩ field = some value) :
    Template.Plain value := by
  have hargument : (Entries.get? field arguments).map Json.plainText = some value := by
    unfold MessageSource.field? at hvalue
    simpa using hvalue
  obtain ⟨v, hv, rfl⟩ := Option.map_eq_some_iff.1 hargument
  exact h (field, v) (Entries.mem_of_get? hv)

/-- A message that has fewer braces than another is another one, also without the blanks. -/
theorem trimString_ne_of_braces {s t : String}
    (h : Template.braces s.toList < Template.braces t.toList) :
    Text.trimString s ≠ Text.trimString t := by
  intro heq
  have hlist := congrArg (fun text => Template.braces text.toList) heq
  simp only [Text.trimString, String.toList_ofList, Template.braces_trim] at hlist
  omega

/--
**How a command without a strategy of its own is announced.**

If its name has no braces, the call announces the name in lower case as it is written, runs the core
and gives its outcome, whatever the arguments are. If the name has a brace, and no argument brings
one along, the call is refused before anything has happened, or it announces another text.
-/
theorem call_announced {name : String} {method : Rest δ} {declarations : List Declaration}
    {context : Context} {type : DeviceType δ} {arguments : Arguments} {device : δ}
    {outcome : Outcome}
    (hdecorators : (Descriptor.build name method declarations).decorators = [])
    (hdefault : (Descriptor.build name method declarations).defaultOutput = none)
    (hcontext : context.output = none)
    (hcore : ((compose (.build name method declarations) context).core type arguments device).result
      = .ok outcome) :
    let c := compose (.build name method declarations) context
    (Template.Plain name →
        c.call type arguments device
          = Output.announced (announcement name) (c.core type arguments device) outcome)
      ∧ (¬ Template.Plain name → (∀ argument ∈ arguments, Template.Plain argument.2.plainText) →
        (∃ error, c.call type arguments device
            = .ended device arguments (.error (.usage error)))
          ∨ ∃ line, line ≠ announcement name
            ∧ c.call type arguments device
              = Output.announced line (c.core type arguments device) outcome) := by
  intro c
  have hcall : c.call type arguments device
      = (Output.announce (Text.lowerString name)).layer.around (c.core type) arguments device := by
    have houtput : output (.build name method declarations) context
        = .announce (Text.lowerString name) := by
      rw [output, hdefault, hcontext, name_build]
      rfl
    have hdirect := call_of_transparent (d := .build name method declarations)
      (by simp [hdecorators]) context type
    rw [houtput] at hdirect
    exact congrFun (congrFun hdirect arguments) device
  rw [hcall]
  constructor
  · intro hplain
    exact Output.around_announce_of_ok
      (Template.render_of_plain ((plain_running name).2 hplain) _) hcore
  · intro hbraces harguments
    cases hpre : Template.render ("Running command " ++ Text.lowerString name)
        (MessageSource.field? ⟨arguments, none⟩) with
    | error error =>
      exact Or.inl ⟨error, Output.around_announce_of_error hpre (c.core type) device⟩
    | ok message =>
      have hfewer := Template.braces_render (fun _ _ => plain_field? harguments) hpre
        fun hplain => hbraces ((plain_running name).1 hplain)
      exact Or.inr ⟨Text.trimString message, trimString_ne_of_braces hfewer,
        Output.around_announce_of_ok hpre hcore⟩

/-- A name in capitals. -/
theorem call_announced_status :
    let d : Descriptor Nat := .build "Status"
      (fun arguments calls => .ended (calls + 1) arguments (.ok (.text "on"))) []
    (compose d ⟨0, none⟩).call countingType [] 0
      = ⟨1, [], [.line "Running command status", .line "on"], .ok (.text "on")⟩ := by
  intro d
  have hcore : ((compose d ⟨0, none⟩).core countingType [] 0).result = .ok (.text "on") := rfl
  have hcall := (@call_announced Nat "Status" d.method [] ⟨0, none⟩ countingType [] 0 _ rfl rfl rfl
    hcore).1 (by simp [Template.Plain])
  have hline : announcement "Status" = "Running command status" := by decide +kernel
  refine hcall.trans ?_
  rw [hline]
  rfl

/-- **A name may keep a command from running**: a brace in it opens a place. -/
theorem not_call_announced :
    ¬ ∀ (name : String) (method : Rest Nat) (declarations : List Declaration) (context : Context)
        (type : DeviceType Nat) (arguments : Arguments) (device : Nat) (outcome : Outcome),
      (Descriptor.build name method declarations).decorators = [] →
      (Descriptor.build name method declarations).defaultOutput = none →
      context.output = none →
      ((compose (.build name method declarations) context).core type arguments device).result
        = .ok outcome →
      ((compose (.build name method declarations) context).call type arguments device).result
          = .ok outcome
        ∧ ((compose (.build name method declarations) context).call type arguments
            device).events.head? = some (.line (announcement name)) := by
  intro hclaim
  obtain ⟨hresult, -⟩ := hclaim "a\x7bb"
    (fun arguments calls => .ended (calls + 1) arguments (.ok .unit)) [] ⟨0, none⟩ countingType [] 0
    .unit rfl rfl rfl rfl
  have hrefused : ((compose (.build "a\x7bb"
      (fun arguments calls => .ended (calls + 1) arguments (.ok .unit)) []) ⟨0, none⟩).call
      countingType [] 0).result.toOption.isSome = false := by
    rw [call_eq_nest]
    decide +kernel
  rw [hresult] at hrefused
  exact absurd hrefused (by decide)

end Composed

end Switchboard
