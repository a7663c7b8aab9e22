import Switchboard.Proofs.UsageErrors

/-!
# Commands that finish what they begin

An output strategy may fail by itself: a message may have a field without a text. With a second
message that is always made it can fail only at the beginning, before the call goes on, and then
the call has done nothing. In all other cases the strategy passes on what came back, or shows the
payload of an error instead (`Output.around_cases`).

A message is always made if its template is well formed and each of its places has a text
(`Template.exists_render`); the one field that every second message can count on is the outcome.
-/

namespace Switchboard

variable {δ : Type}

/-! ## Messages that are always made -/

namespace Template

theorem exists_fill {lookup : String → Option String} {segments : List Segment}
    (h : ∀ inside, .place inside ∈ segments →
      (lookup (String.ofList (placeName inside))).isSome = true) :
    ∃ text, fill lookup segments = .ok text := by
  induction segments with
  | nil => exact ⟨[], rfl⟩
  | cons segment segments ih =>
    obtain ⟨text, htext⟩ := ih fun inside hmem => h inside (List.mem_cons_of_mem _ hmem)
    cases segment with
    | char c => exact ⟨c :: text, by rw [fill, htext]; rfl⟩
    | place inside =>
      obtain ⟨value, hvalue⟩ := Option.isSome_iff_exists.1 (h inside List.mem_cons_self)
      refine ⟨value.toList ++ text, ?_⟩
      rw [fill, hvalue, htext]
      rfl

theorem exists_render {template : String} {lookup : String → Option String}
    {segments : List Segment} (hscan : scan template.toList = (segments, none))
    (h : ∀ inside, .place inside ∈ segments →
      (lookup (String.ofList (placeName inside))).isSome = true) :
    ∃ text, render template lookup = .ok text := by
  obtain ⟨text, htext⟩ := exists_fill h
  refine ⟨String.ofList text, ?_⟩
  unfold render
  rw [hscan]
  dsimp only
  rw [htext]
  rfl

/-- A text without braces stands for itself. -/
theorem scan_of_plain {text : List Char} (h : ∀ c ∈ text, c ≠ '{' ∧ c ≠ '}') :
    scan text = (text.map .char, none) := by
  unfold scan
  induction text with
  | nil => rfl
  | cons c text ih =>
    obtain ⟨hopen, hclose⟩ := h c List.mem_cons_self
    rw [scanFrom, if_neg hopen, if_neg hclose, ih fun c hmem => h c (List.mem_cons_of_mem _ hmem)]
    rfl

end Template

theorem MessageSource.isSome_result (arguments : Arguments) (outcome : Outcome) :
    ((⟨arguments, some outcome⟩ : MessageSource).field? resultField).isSome = true := by
  unfold field?
  rw [if_pos rfl]
  rfl

/-- A message that can always be made after a call. -/
def Message.Concludes (post : Message) : Prop :=
  ∀ arguments outcome, ∃ text, post.render ⟨arguments, some outcome⟩ = .ok text

/-- A message that can always be made before a call. -/
def Message.Opens (pre : Message) : Prop :=
  ∀ arguments, ∃ text, pre.render ⟨arguments, none⟩ = .ok text

/-- The outcome may stand in every message after a call. -/
theorem Message.concludes_template {template : String} {segments : List Template.Segment}
    (hscan : Template.scan template.toList = (segments, none))
    (h : ∀ inside, .place inside ∈ segments →
      String.ofList (Template.placeName inside) = MessageSource.resultField) :
    (Message.template template).Concludes := by
  intro arguments outcome
  refine Template.exists_render hscan fun inside hmem => ?_
  rw [h inside hmem]
  exact MessageSource.isSome_result arguments outcome

/-- A template without braces may stand before every call. -/
theorem Message.opens_template {template : String}
    (h : ∀ c ∈ template.toList, c ≠ '{' ∧ c ≠ '}') : (ofTemplate template).Opens := by
  intro arguments
  unfold ofTemplate
  split
  · exact ⟨"", rfl⟩
  · refine Template.exists_render (Template.scan_of_plain h) fun inside hmem => ?_
    obtain ⟨c, -, hc⟩ := List.mem_map.1 hmem
    cases hc

theorem Message.opens_empty : empty.Opens := fun _ => ⟨"", rfl⟩

theorem Message.opens_composed (compose : MessageSource → String) : (composed compose).Opens :=
  fun arguments => ⟨compose ⟨arguments, none⟩, rfl⟩

/-- The message that is nothing but the outcome. -/
theorem Message.concludes_result : (ofTemplate "\x7bresult\x7d").Concludes := by
  have hscan : Template.scan "\x7bresult\x7d".toList = ([.place "result".toList], none) := rfl
  refine concludes_template hscan fun inside hmem => ?_
  rw [Template.Segment.place.inj (List.mem_singleton.1 hmem)]
  rfl

/-! ## What a strategy passes on -/

namespace Output

/-- A strategy whose second message is always made. -/
def Concludes (output : Output) : Prop := ∀ pre post, output = .text pre post → post.Concludes

/-- A strategy whose first message is always made. -/
def Opens (output : Output) : Prop := ∀ pre post, output = .text pre post → pre.Opens

theorem concludes_text {post : Message} (hpost : post.Concludes) (pre : Message) :
    (text pre post).Concludes := by
  rintro _ _ ⟨⟩
  exact hpost

theorem opens_text {pre : Message} (hpre : pre.Opens) (post : Message) :
    (text pre post).Opens := by
  rintro _ _ ⟨⟩
  exact hpre

/-- The strategy of a command without one of its own begins with the name of the command. -/
theorem opens_announce {command : String} (h : ∀ c ∈ command.toList, c ≠ '{' ∧ c ≠ '}') :
    (announce command).Opens := by
  refine opens_text (Message.opens_template fun c hc => ?_) _
  rw [String.toList_append] at hc
  rcases List.mem_append.1 hc with hprefix | hname
  · have hplain : ∀ c ∈ "Running command ".toList, c ≠ '{' ∧ c ≠ '}' := by simp
    exact hplain c hprefix
  · exact h c hname

theorem textCourse_run_of_concludes {pre post : Message} (hpost : post.Concludes)
    {arguments : Arguments} {message : String} (hpre : pre.render ⟨arguments, none⟩ = .ok message)
    (rest : Rest δ) (device : δ) :
    ((textCourse pre post arguments).run rest device).device = (rest arguments device).device
      ∧ ((textCourse pre post arguments).run rest device).result
        = (rest arguments device).result := by
  unfold textCourse
  rw [hpre]
  dsimp only
  rw [say_run_device, say_run_result, Course.run]
  dsimp only [Call.after_device, Call.after_result]
  cases (rest arguments device).result with
  | error error => exact ⟨rfl, rfl⟩
  | ok outcome =>
    obtain ⟨hdevice, hresult⟩ := showText_run post (rest arguments device).arguments outcome rest
      (rest arguments device).device
    refine ⟨hdevice, ?_⟩
    rcases hresult with hok | ⟨error, herror, -⟩
    · exact hok
    · obtain ⟨text, htext⟩ := hpost (rest arguments device).arguments outcome
      rw [herror] at htext
      cases htext

end Output

/-! ## Layers that change nothing -/

theorem Layer.around_transparent (name : String) (rest : Rest δ) :
    (transparent name).around rest = rest := by
  funext arguments device
  have hcall : (transparent name).around rest arguments device
      = { rest arguments device with events := (rest arguments device).events ++ [] } := rfl
  rw [hcall, List.append_nil]

/-- A command whose decorators change nothing is its guarded method with a strategy around it. -/
theorem Composed.call_of_transparent {d : Descriptor δ}
    (h : ∀ layer ∈ d.decorators, ∃ name, layer = .transparent name) (context : Context)
    (type : DeviceType δ) :
    (compose d context).call type
      = (output d context).layer.around ((compose d context).core type) := by
  have hnest (layers : List Layer) (hl : ∀ layer ∈ layers, ∃ name, layer = .transparent name)
      (rest : Rest δ) : Layer.nest layers rest = rest := by
    induction layers with
    | nil => rfl
    | cons layer layers ih =>
      obtain ⟨name, rfl⟩ := hl layer List.mem_cons_self
      have hrest := ih fun layer hmem => hl layer (List.mem_cons_of_mem _ hmem)
      rw [Layer.nest, List.foldr_cons, Layer.around_transparent]
      exact hrest
  rw [call_eq_nest]
  unfold compose Layer.nest
  rw [List.foldr_append]
  exact hnest _ (fun layer hmem => h layer (List.mem_reverse.1 hmem)) _

end Switchboard
