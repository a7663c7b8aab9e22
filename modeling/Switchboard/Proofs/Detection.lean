import Switchboard.Proofs.Inheritance

/-!
# Autodetection in a session

A device is asked what it is when a command first needs to know, and then not again. The guard that
asks stands innermost, so every layer that lets a call proceed comes to it, as often as it likes, in
every command of the session. That the device is asked with success once at most is therefore an
invariant of the session and nothing that one call could tell.

What the guard fetched and how each method found the device is marked beside the device.
`Progress` is what a stretch of the session may do: it is closed under one stretch after another,
so it passes from the guarded method (`Composed.progress_core`) to the layers around it, to a run,
and to runs in turn. `Session.detects_once` reads the marks of a whole session off it.

What is asked of the device type is that it does not forget: `DeviceType.Remembers`.
-/

namespace Switchboard

variable {δ β : Type}

/-! ## What is seen of a session -/

/-- What leaves a mark in a session. -/
inductive Sighting where
  /-- The guard fetched the information on the device, with or without success. -/
  | fetched (succeeded : Bool)
  /-- A method started, behind the guard or not, on a device that was identified or not. -/
  | started (guarded identified : Bool)
  deriving DecidableEq, Repr

/-- A device type whose fetching leaves a mark. -/
def Sighting.type (t : DeviceType δ) : DeviceType (Watched Sighting δ) :=
  { Watched.type [] t with
    fetchInfo w :=
      let fetch := t.fetchInfo w.device
      ⟨⟨fetch.device, w.marks ++ [.fetched fetch.result.isOk]⟩, fetch.events, fetch.result⟩ }

/-- A command whose method leaves a mark when it starts. -/
def Composed.sighted (c : Composed δ) (t : DeviceType δ) : Composed (Watched Sighting δ) where
  name := c.name
  layers := c.layers
  autodetects := c.autodetects
  method arguments w :=
    Watched.part.lift c.method arguments (w.mark (.started c.autodetects (t.isIdentified w.device)))

/-- Calls in turn, each on the device that the one before left. -/
def Call.inTurn (run : String → Rest δ) : List (String × Arguments) → δ → List (Call δ)
  | [], _ => []
  | (command, arguments) :: requests, device =>
    let call := run command arguments device
    call :: inTurn run requests call.device

namespace Session

/-- Runs of a session, on the device as it is when each of them starts. -/
def runOn (session : Session δ) (command : String) : Rest δ := fun arguments device =>
  { session with device }.run command arguments

/-- Runs of a session on its watched device. -/
def sightedRunOn (session : Session δ) (command : String) : Rest (Watched Sighting δ) :=
  fun arguments w =>
    match session.group.resolve command session.context with
    | .error error => .ended w arguments (.error error)
    | .ok composed =>
      (composed.sighted session.group.type).call (Sighting.type session.group.type) arguments w

end Session

/-! ### The session without its marks -/

theorem Sighting.delegates_type (t : DeviceType δ) :
    Delegates Watched.device (Sighting.type t) t :=
  ⟨fun _ => rfl, fun _ => rfl⟩

theorem Composed.simulates_sighted (c : Composed δ) (t : DeviceType δ) :
    Simulates Watched.device ((c.sighted t).call (Sighting.type t)) (c.call t) := by
  have hmethod : Simulates Watched.device (c.sighted t).method c.method := fun _ _ => rfl
  have hcore : Simulates Watched.device ((c.sighted t).core (Sighting.type t)) (c.core t) := by
    have hguard : (c.sighted t).autodetects = c.autodetects := rfl
    unfold core
    rw [hguard]
    split
    · exact hmethod.autodetect (Sighting.delegates_type t)
    · exact hmethod
  rw [call_eq_nest, call_eq_nest]
  exact hcore.nest c.layers

theorem Session.simulates_sightedRunOn (session : Session δ) (command : String) :
    Simulates Watched.device (session.sightedRunOn command) (session.runOn command) := by
  intro arguments w
  unfold sightedRunOn runOn run
  cases session.group.resolve command session.context with
  | error error => rfl
  | ok composed => exact composed.simulates_sighted session.group.type arguments w

theorem Simulates.inTurn {ε : Type} {view : δ → ε} {outer : String → Rest δ}
    {inner : String → Rest ε} (h : ∀ command, Simulates view (outer command) (inner command))
    (requests : List (String × Arguments)) (device : δ) :
    (Call.inTurn outer requests device).map (Call.onDevice view)
      = Call.inTurn inner requests (view device) := by
  induction requests generalizing device with
  | nil => rfl
  | cons request requests ih =>
    rw [Call.inTurn, Call.inTurn, List.map_cons, ih, ← h request.1]
    rfl

/-- What every run does to its device, runs in turn do. -/
theorem Call.inTurn_relates {R : δ → δ → Prop} (trans : ∀ {d₁ d₂ d₃}, R d₁ d₂ → R d₂ d₃ → R d₁ d₃)
    {run : String → Rest δ} (h : ∀ command arguments d, R d (run command arguments d).device)
    {requests : List (String × Arguments)} {d : δ} :
    ∀ call ∈ inTurn run requests d, R d call.device := by
  induction requests generalizing d with
  | nil => exact List.forall_mem_nil _
  | cons request requests ih =>
    have hfirst := h request.1 request.2 d
    exact List.forall_mem_cons.2 ⟨hfirst, fun call hcall => trans hfirst (ih call hcall)⟩

/-! ## Progress -/

/-- A rest leaves a device identified that is identified. -/
def DeviceType.Remembers (t : DeviceType δ) (rest : Rest δ) : Prop :=
  ∀ arguments device, t.isIdentified device = true →
    t.isIdentified (rest arguments device).device = true

/-- A device whose information was fetched with success is identified. -/
def DeviceType.LearnsByFetching (t : DeviceType δ) : Prop :=
  ∀ device, (t.fetchInfo device).result = .ok () →
    t.isIdentified (t.fetchInfo device).device = true

/-- What may happen in a session from one moment to another, with these new marks. -/
structure Progress (t : DeviceType δ) (w w' : Watched Sighting δ) (new : List Sighting) : Prop where
  marks : w'.marks = w.marks ++ new
  /-- An identified device stays identified, and nothing is fetched for it. -/
  remembers : t.isIdentified w.device = true →
    t.isIdentified w'.device = true ∧ ∀ succeeded, .fetched succeeded ∉ new
  once : new.count (.fetched true) ≤ 1
  /-- What was fetched identifies the device. -/
  learns : .fetched true ∈ new → t.isIdentified w'.device = true
  /-- Behind the guard the device is identified. -/
  guarded : ∀ identified, .started true identified ∈ new → identified = true

namespace Progress

variable {t : DeviceType δ}

theorem refl (w : Watched Sighting δ) : Progress t w w [] where
  marks := (List.append_nil _).symm
  remembers h := ⟨h, fun _ => List.not_mem_nil⟩
  once := Nat.zero_le 1
  learns h := absurd h List.not_mem_nil
  guarded _ h := absurd h List.not_mem_nil

theorem trans {w w' w'' : Watched Sighting δ} {new new' : List Sighting}
    (h : Progress t w w' new) (h' : Progress t w' w'' new') :
    Progress t w w'' (new ++ new') where
  marks := by rw [h'.marks, h.marks, List.append_assoc]
  remembers hknown := by
    obtain ⟨hknown', hnew⟩ := h.remembers hknown
    obtain ⟨hknown'', hnew'⟩ := h'.remembers hknown'
    exact ⟨hknown'', fun succeeded hmem =>
      (List.mem_append.1 hmem).elim (hnew succeeded) (hnew' succeeded)⟩
  once := by
    rw [List.count_append]
    -- after a success nothing more is fetched
    by_cases hfetched : .fetched true ∈ new
    · have hnone : new'.count (.fetched true) = 0 :=
        List.count_eq_zero.2 ((h'.remembers (h.learns hfetched)).2 true)
      rw [hnone]
      exact h.once
    · rw [List.count_eq_zero.2 hfetched, Nat.zero_add]
      exact h'.once
  learns hmem := by
    rcases List.mem_append.1 hmem with hmem | hmem
    · exact (h'.remembers (h.learns hmem)).1
    · exact h'.learns hmem
  guarded identified hmem :=
    (List.mem_append.1 hmem).elim (h.guarded identified) (h'.guarded identified)

/-- A method that starts behind the guard on an identified device, or that has no guard. -/
theorem method {c : Composed δ} (hmethod : t.Remembers c.method) (arguments : Arguments)
    (w : Watched Sighting δ) (h : c.autodetects = true → t.isIdentified w.device = true) :
    Progress t w ((c.sighted t).method arguments w).device
      [.started c.autodetects (t.isIdentified w.device)] where
  marks := rfl
  remembers hknown := by
    refine ⟨hmethod arguments w.device hknown, fun succeeded hmem => ?_⟩
    cases List.mem_singleton.1 hmem
  once := by rw [List.count_singleton]; split <;> decide
  learns hmem := by cases List.mem_singleton.1 hmem
  guarded identified hmem := by
    obtain ⟨hguarded, hidentified⟩ := Sighting.started.inj (List.mem_singleton.1 hmem)
    rw [hidentified]
    exact h hguarded.symm

/-- The guard fetches, on a device that is not identified. -/
theorem fetch (hlearns : t.LearnsByFetching) {w : Watched Sighting δ}
    (h : ¬t.isIdentified w.device = true) :
    Progress t w ((Sighting.type t).fetchInfo w).device
      [.fetched (t.fetchInfo w.device).result.isOk] where
  marks := rfl
  remembers hknown := absurd hknown h
  once := by rw [List.count_singleton]; split <;> decide
  learns hmem := by
    apply hlearns
    have hok : true = (t.fetchInfo w.device).result.isOk :=
      Sighting.fetched.inj (List.mem_singleton.1 hmem)
    cases hresult : (t.fetchInfo w.device).result with
    | ok _ => rfl
    | error error => rw [hresult] at hok; cases hok
  guarded _ hmem := by cases List.mem_singleton.1 hmem

end Progress

/-- **The guarded method makes progress**: it is known what the device is, or it is fetched, or the
method does not start. -/
theorem Composed.progress_core {t : DeviceType δ} (hlearns : t.LearnsByFetching) {c : Composed δ}
    (hmethod : t.Remembers c.method) (arguments : Arguments) (w : Watched Sighting δ) :
    ∃ new, Progress t w ((c.sighted t).core (Sighting.type t) arguments w).device new := by
  unfold core
  split
  · by_cases hknown : t.isIdentified w.device = true
    · -- the guard has nothing to do, and the method starts on the device as it is
      have hcall : autodetect (Sighting.type t) (c.sighted t).method arguments w
          = (c.sighted t).method arguments w := if_pos hknown
      rw [hcall]
      exact ⟨_, .method hmethod arguments w fun _ => hknown⟩
    · -- the guard fetches first; the method starts only if that was a success
      have hfetch := Progress.fetch hlearns hknown
      have hcall : autodetect (Sighting.type t) (c.sighted t).method arguments w = _ :=
        if_neg hknown
      rw [hcall]
      dsimp only
      cases hresult : ((Sighting.type t).fetchInfo w).result with
      | ok _ =>
        have hidentified := hlearns w.device hresult
        exact ⟨_, hfetch.trans (.method hmethod arguments _ fun _ => hidentified)⟩
      | error error => exact ⟨_, hfetch⟩
  · next hguard => exact ⟨_, .method hmethod arguments w fun h => absurd h hguard⟩

/-! ## Sessions -/

namespace Session

/-- A run makes progress, whatever the layers around its method do. -/
theorem progress_sightedRunOn {session : Session δ}
    (hlearns : session.group.type.LearnsByFetching)
    (hmethods : ∀ name d, session.group.registry.get? name = some d →
      session.group.type.Remembers d.method)
    (command : String) (arguments : Arguments) (w : Watched Sighting δ) :
    ∃ new, Progress session.group.type w (session.sightedRunOn command arguments w).device new := by
  unfold sightedRunOn Group.resolve
  cases hget : session.group.registry.get? command with
  | none => exact ⟨[], .refl w⟩
  | some d =>
    -- layers hand the device on and leave no marks, so they keep what the guarded method keeps
    dsimp only
    rw [Composed.call_eq_nest]
    exact Layer.nest_relates (R := fun w w' => ∃ new, Progress session.group.type w w' new)
      (fun w => ⟨[], .refl w⟩) (fun ⟨_, h⟩ ⟨_, h'⟩ => ⟨_, h.trans h'⟩)
      (Composed.progress_core hlearns (hmethods command d hget)) _ arguments w

/--
**A device is detected once in a session.**

Let fetching with success identify a device, and let no method of a command make it unknown again.
In a session on such a device, whatever commands are run with whatever arguments, up to the end of
each of them the guard has fetched with success once at most, and not at all if the device was known
when it was connected; and every method behind the guard has started on a device that was
identified. The session that is watched is the session itself, with marks beside the device.
-/
theorem detects_once {g : Group δ} {context : Context} {connection : Connection}
    {session : Session δ} (hconnect : g.connect context connection = .ok session)
    (hlearns : g.type.LearnsByFetching)
    (hmethods : ∀ name d, g.registry.get? name = some d → g.type.Remembers d.method)
    (requests : List (String × Arguments)) :
    let calls := Call.inTurn session.sightedRunOn requests (.fresh session.device)
    calls.map (Call.onDevice Watched.device)
        = Call.inTurn session.runOn requests session.device
      ∧ ∀ call ∈ calls,
          call.device.marks.count (.fetched true) ≤ 1
            ∧ (g.type.isIdentified session.device = true →
                ∀ succeeded, .fetched succeeded ∉ call.device.marks)
            ∧ ∀ identified, .started true identified ∈ call.device.marks → identified = true := by
  intro calls
  have hgroup : session.group = g := by
    unfold Group.connect at hconnect
    split at hconnect
    · cases hconnect; rfl
    · cases hconnect
  subst hgroup
  refine ⟨Simulates.inTurn session.simulates_sightedRunOn requests _, fun call hcall => ?_⟩
  obtain ⟨new, hnew⟩ := Call.inTurn_relates
    (R := fun w w' => ∃ new, Progress session.group.type w w' new)
    (fun ⟨_, h⟩ ⟨_, h'⟩ => ⟨_, h.trans h'⟩) (progress_sightedRunOn hlearns hmethods) call hcall
  have hmarks : call.device.marks = new := hnew.marks
  rw [hmarks]
  exact ⟨hnew.once, fun hknown => (hnew.remembers hknown).2, hnew.guarded⟩

end Session

/-! ## Plugs do not forget -/

namespace Embedding.PassesOn

variable {e : Embedding δ β} {outer : DeviceType δ} {inner : DeviceType β}

theorem remembers (h : e.PassesOn outer inner) {rest : Rest β} (hrest : inner.Remembers rest) :
    outer.Remembers (e.lift rest) := by
  intro arguments whole hknown
  rw [h.isIdentified] at hknown ⊢
  unfold lift liftCall
  rw [e.view_put]
  exact hrest arguments (e.view whole) hknown

theorem learnsByFetching (h : e.PassesOn outer inner) (hinner : inner.LearnsByFetching) :
    outer.LearnsByFetching := by
  intro whole hok
  rw [h.fetchInfo] at hok ⊢
  rw [h.isIdentified]
  unfold liftFetch
  rw [e.view_put]
  exact hinner (e.view whole) hok

end Embedding.PassesOn

/-- A command that answers with what it asked the device forgets nothing that asking does not. -/
theorem DeviceType.remembers_build {t : DeviceType δ} {α : Type} {outcome : α → Outcome}
    {answered : Arguments → δ → Answered δ α}
    (h : ∀ arguments device, t.isIdentified device = true →
      t.isIdentified (answered arguments device).1 = true)
    (name : String) (declarations : List Declaration) :
    t.Remembers (Descriptor.build name
      (fun arguments device => .ofAnswer arguments outcome (answered arguments device))
      declarations).method := by
  intro arguments device hknown
  rw [Descriptor.build_method, Call.ofAnswer_device]
  exact h arguments device hknown

namespace GenericDevice

/-- Information that is kept identifies the device. -/
theorem isIdentified_identify (info : DeviceInfo) (d : GenericDevice) :
    type.isIdentified (d.identify info) = true := Bool.or_true _

theorem queryInfo_cases (d : GenericDevice) :
    (∃ info, d.queryInfo = ((d.send "info" .null).1.identify info, .ok info))
      ∨ ∃ error, d.queryInfo = ((d.send "info" .null).1, .error error) := by
  unfold queryInfo
  dsimp only
  split
  · exact Or.inl ⟨_, rfl⟩
  · exact Or.inr ⟨_, rfl⟩

theorem isIdentified_queryInfo {d : GenericDevice} (h : type.isIdentified d = true) :
    type.isIdentified d.queryInfo.1 = true := by
  rcases d.queryInfo_cases with ⟨info, heq⟩ | ⟨error, heq⟩
  · rw [heq]
    exact isIdentified_identify info _
  · rw [heq]
    exact h

theorem learnsByFetching : type.LearnsByFetching := by
  intro d hok
  have hdevice : (type.fetchInfo d).device = d.queryInfo.1 := rfl
  have hresult : (type.fetchInfo d).result = d.queryInfo.2.map fun _ => () := rfl
  rw [hresult] at hok
  rw [hdevice]
  rcases d.queryInfo_cases with ⟨info, heq⟩ | ⟨error, heq⟩
  · rw [heq]
    exact isIdentified_identify info _
  · rw [heq] at hok
    cases hok

/-- A request changes nothing that is known of the device. -/
theorem isIdentified_send (method : String) (params : Json) (d : GenericDevice) :
    type.isIdentified (d.send method params).1 = type.isIdentified d := rfl

theorem remembers_rawCommand : type.Remembers rawCommand.method := by
  intro arguments d hknown
  rw [rawCommand, Descriptor.build_method]
  unfold sendRaw
  split
  · rw [Call.ofAnswer_device, isIdentified_send]
    exact hknown
  · exact hknown

end GenericDevice

namespace Plug

theorem isIdentified_led (state : Option String) (p : Plug) :
    type.isIdentified (p.led state).1 = type.isIdentified p := by
  cases state with
  | none => rfl
  | some state =>
    unfold led
    dsimp only
    split <;> rfl

theorem isIdentified_infoRows {p : Plug} (h : type.isIdentified p = true) :
    type.isIdentified p.infoRows.1 = true := by
  have hbase : GenericDevice.type.isIdentified p.base.queryInfo.1 = true :=
    GenericDevice.isIdentified_queryInfo h
  unfold infoRows
  dsimp only
  split <;> exact hbase

theorem remembers_plugCommands : ∀ d ∈ Assembly.plugCommands, type.Remembers d.method := by
  have hinfo : type.Remembers infoCommand.method :=
    DeviceType.remembers_build (fun _ _ => isIdentified_infoRows) _ _
  have hstatus : type.Remembers statusCommand.method :=
    DeviceType.remembers_build (fun _ _ hknown => hknown) _ _
  have hpower (on : Bool) : type.Remembers (powerCommand on).method :=
    DeviceType.remembers_build (fun _ _ hknown => hknown) _ _
  have hled : type.Remembers ledCommand.method :=
    DeviceType.remembers_build (fun _ _ hknown => by rwa [isIdentified_led]) _ _
  have hproperties : type.Remembers propertiesCommand.method :=
    DeviceType.remembers_build (fun _ _ hknown => hknown) _ _
  simp only [Assembly.plugCommands, List.forall_mem_cons]
  exact ⟨hinfo, hstatus, hpower true, hpower false, hled, hproperties, List.forall_mem_nil _⟩

/-- No command of plugs forgets what the plug is, neither its own nor the one it inherits. -/
theorem remembers_of_get? {name : String} {d : Descriptor Plug}
    (h : registry.get? name = some d) : type.Remembers d.method := by
  rcases Assembly.cases_ofPlug h with hown | rfl
  · exact remembers_plugCommands d hown
  · exact passesOn.remembers GenericDevice.remembers_rawCommand

end Plug

/-- A session on a plug: a command without the guard, an unknown one, and two with the guard. -/
theorem Session.detects_once_plug :
    let g : Group Plug := ⟨Plug.type, Plug.registry⟩
    let connection : Connection := ⟨"10.0.0.5", "00112233445566778899aabbccddeeff", none, 0⟩
    let session : Session Plug := ⟨g, ⟨0, none⟩, Plug.connect connection⟩
    let requests : List (String × Arguments) :=
      [("raw-command", []), ("dim", []), ("on", []), ("status", [])]
    let calls := Call.inTurn session.sightedRunOn requests (.fresh session.device)
    g.connect ⟨0, none⟩ connection = .ok session
      ∧ calls.map (Call.onDevice Watched.device)
        = Call.inTurn session.runOn requests session.device
      ∧ ∀ call ∈ calls, call.device.marks.count (.fetched true) ≤ 1
        ∧ .started true false ∉ call.device.marks := by
  intro g connection session requests calls
  have haddress : Address.parse connection.address = .ok connection.address := if_pos (by decide)
  have htoken : Token.parse connection.token = .ok connection.token := if_pos (by decide)
  have hconnect : g.connect ⟨0, none⟩ connection = .ok session := by
    rw [Group.connect, Connection.validate, haddress, htoken]
    rfl
  obtain ⟨hcalls, hmarks⟩ := Session.detects_once hconnect
    (Plug.passesOn.learnsByFetching GenericDevice.learnsByFetching)
    (fun _ _ => Plug.remembers_of_get?) requests
  refine ⟨hconnect, hcalls, fun call hcall => ?_⟩
  obtain ⟨honce, -, hguarded⟩ := hmarks call hcall
  exact ⟨honce, fun hmem => absurd (hguarded false hmem) Bool.false_ne_true⟩

end Switchboard
