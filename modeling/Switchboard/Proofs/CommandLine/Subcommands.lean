import Switchboard.CommandLine.Parser

/-!
# Subcommands on a command line

A command reads its own words up to the name of a subcommand, and the subcommand takes over all
words after that. The commands around it only wait to be closed. So a command line that is accepted
falls into two: the words of the command itself, and behind the name a command line that the
subcommand accepts by itself (`Command.accepts_of_parse`).

What a command waits with is a frame below the ones that read. `State.within` puts frames there, and
nothing that is read looks at them (`State.run_within`); only the end of the words does.
-/

namespace Switchboard

theorem bind_eq_ok_iff {ε α β : Type} {x : Except ε α} {f : α → Except ε β} {b : β} :
    x.bind f = .ok b ↔ ∃ a, x = .ok a ∧ f a = .ok b := by
  cases x with
  | error e => simp [Except.bind]
  | ok a => simp [Except.bind]

theorem map_eq_ok_iff {ε α β : Type} {x : Except ε α} {f : α → β} {b : β} :
    x.map f = .ok b ↔ ∃ a, x = .ok a ∧ f a = b := by
  cases x with
  | error e => simp [Except.map]
  | ok a => simp [Except.map]

namespace CommandLine

/-- Reads words one after the other. -/
def State.run (words : List String) (s : State) : Except Fault State :=
  words.foldlM (fun s word => s.step word) s

theorem State.run_cons (word : String) (words : List String) (s : State) :
    s.run (word :: words) = (s.step word).bind (State.run words) := rfl

theorem Command.name_of_find? {command sub : Command} {name : String}
    (h : command.find? name = some sub) : sub.name = name := by
  unfold find? at h
  have hname := List.find?_some h
  exact of_decide_eq_true hname

theorem Command.parse_eq (command : Command) (words : List String) :
    command.parse words
      = (State.run words (.reading (.start command) [])).bind State.finish := rfl

/-! ## Frames that wait -/

namespace State

/-- A state with more commands around it. -/
def within (around : List Frame) : State → State
  | reading frame outer => reading frame (outer ++ around)
  | skipping name frame outer => skipping name frame (outer ++ around)
  | helping command => helping command

end State

theorem Frame.positional_within (frame : Frame) (outer around : List Frame) (word : String) :
    frame.positional (outer ++ around) word
      = (frame.positional outer word).map (State.within around) := by
  unfold positional
  split
  · cases frame.resolve <;> rfl
  · split <;> rfl

theorem Frame.word_within (frame : Frame) (outer around : List Frame) (text : String) :
    frame.word (outer ++ around) text = (frame.word outer text).map (State.within around) := by
  unfold word
  split
  · rfl
  · dsimp only
    generalize frame.long _ _ = read
    cases read <;> rfl
  · generalize List.foldlM letter frame _ = read
    cases read <;> rfl
  · split
    · rfl
    · exact frame.positional_within outer around text

theorem Frame.step_within (frame : Frame) (outer around : List Frame) (text : String) :
    frame.step (outer ++ around) text = (frame.step outer text).map (State.within around) := by
  unfold step
  split
  · exact frame.positional_within outer around text
  · split
    · exact frame.word_within outer around text
    · split
      · rfl
      · split
        · rfl
        · exact frame.word_within outer around text

theorem State.step_within (around : List Frame) (word : String) (s : State) :
    (s.within around).step word = (s.step word).map (State.within around) := by
  cases s with
  | reading frame outer => exact frame.step_within outer around word
  | skipping name frame outer => rfl
  | helping command =>
    dsimp only [within, step]
    split
    · rfl
    · split <;> rfl

/-- **What waits is not looked at.** -/
theorem State.run_within (around : List Frame) (words : List String) (s : State) :
    (s.within around).run words = (s.run words).map (State.within around) := by
  induction words generalizing s with
  | nil => rfl
  | cons word words ih =>
    rw [run_cons, run_cons, step_within]
    cases s.step word with
    | error fault => rfl
    | ok s' => exact ih s'

/-! ## What a word does to a frame -/

namespace Frame

/-- Two frames of one command at one place among its positional arguments. -/
structure SamePlace (frame frame' : Frame) : Prop where
  command : frame'.command = frame.command
  begun : frame'.begun = frame.begun
  trailing : frame'.trailing = frame.trailing

theorem SamePlace.refl (frame : Frame) : frame.SamePlace frame := ⟨rfl, rfl, rfl⟩

theorem SamePlace.trans {f₁ f₂ f₃ : Frame} (h : f₁.SamePlace f₂) (h' : f₂.SamePlace f₃) :
    f₁.SamePlace f₃ :=
  ⟨h'.command.trans h.command, h'.begun.trans h.begun, h'.trailing.trans h.trailing⟩

theorem give_ok {frame frame' : Frame} {arg : Arg} {reader : Reader} {word : String}
    (h : frame.give arg reader word = .ok frame') :
    frame.has arg = false
      ∧ ∃ value, reader.read word = .ok value ∧ frame' = frame.put arg value := by
  unfold give at h
  split at h
  · cases h
  · next hhas =>
    obtain ⟨value, hread, hput⟩ := map_eq_ok_iff.1 h
    exact ⟨Bool.eq_false_iff.2 hhas, value, hread, hput.symm⟩

theorem samePlace_give {frame frame' : Frame} {arg : Arg} {reader : Reader} {word : String}
    (h : frame.give arg reader word = .ok frame') :
    frame.SamePlace frame' ∧ frame'.pending = frame.pending := by
  obtain ⟨-, value, -, rfl⟩ := give_ok h
  exact ⟨⟨rfl, rfl, rfl⟩, rfl⟩

/-- Nothing is begun after the argument begun last was read. -/
theorem resolve_ok {frame frame' : Frame} (h : frame.resolve = .ok frame') :
    frame.SamePlace frame' ∧ frame'.pending = .nothing := by
  unfold resolve at h
  split at h
  · next hpending =>
    cases h
    exact ⟨.refl frame, hpending⟩
  · cases h
  · obtain ⟨hplace, hpending⟩ := samePlace_give h
    exact ⟨⟨hplace.command, hplace.begun, hplace.trailing⟩, hpending⟩

theorem samePlace_begin {frame frame' : Frame} {arg : Arg} {attached : Option String}
    (h : frame.begin arg attached = .ok frame') : frame.SamePlace frame' := by
  unfold begin at h
  split at h
  · cases h
  · obtain ⟨resolved, hresolve, hgive⟩ := bind_eq_ok_iff.1 h
    exact (resolve_ok hresolve).1.trans (samePlace_give hgive).1
  · obtain ⟨resolved, hresolve, rfl⟩ := map_eq_ok_iff.1 h
    exact (resolve_ok hresolve).1.trans ⟨rfl, rfl, rfl⟩
  · obtain ⟨resolved, hresolve, hput⟩ := bind_eq_ok_iff.1 h
    split at hput
    · cases hput
    · cases hput
      exact (resolve_ok hresolve).1.trans ⟨rfl, rfl, rfl⟩
  · obtain ⟨resolved, hresolve, rfl⟩ := map_eq_ok_iff.1 h
    exact (resolve_ok hresolve).1.trans ⟨rfl, rfl, rfl⟩
  · cases h

theorem request_ne_ok (frame frame' : Frame) (fault : Fault) :
    frame.request fault ≠ .ok frame' := by
  intro h
  obtain ⟨_, -, hfault⟩ := bind_eq_ok_iff.1 h
  cases hfault

theorem long_ok {frame frame' : Frame} {name : String} {attached : Option String}
    (h : frame.long name attached = .ok frame') :
    ∃ arg, frame.command.args.find? (·.shape.long? = some name) = some arg
      ∧ frame.begin arg attached = .ok frame' := by
  unfold long at h
  split at h
  · next arg hfind => exact ⟨arg, hfind, h⟩
  · -- all that is left are requests and faults
    exfalso
    split at h
    · split at h
      · cases h
      · exact request_ne_ok _ _ _ h
    · split at h
      · split at h
        · cases h
        · exact request_ne_ok _ _ _ h
      · cases h

theorem letter_ok {frame frame' : Frame} {c : Char} (h : frame.letter c = .ok frame') :
    ∃ arg, frame.command.args.find? (·.shape.letter? = some c) = some arg
      ∧ frame.begin arg none = .ok frame' := by
  unfold letter at h
  split at h
  · next arg hfind => exact ⟨arg, hfind, h⟩
  · exfalso
    split at h
    · exact request_ne_ok _ _ _ h
    · split at h
      · exact request_ne_ok _ _ _ h
      · cases h

theorem samePlace_letters {frame frame' : Frame} {letters : List Char}
    (h : letters.foldlM letter frame = .ok frame') : frame.SamePlace frame' := by
  induction letters generalizing frame with
  | nil =>
    cases h
    exact .refl _
  | cons c letters ih =>
    obtain ⟨next, hletter, hrest⟩ := bind_eq_ok_iff.1 h
    obtain ⟨arg, -, hbegin⟩ := letter_ok hletter
    exact (samePlace_begin hbegin).trans (ih hrest)

/-- A word in its place is the next positional argument, or any word where any may be a
subcommand. -/
theorem positional_ok {frame : Frame} {outer : List Frame} {text : String} {s : State}
    (h : frame.positional outer text = .ok s) :
    (∃ arg reader resolved, frame.command.positionals[frame.begun]? = some (arg, reader)
        ∧ frame.resolve = .ok resolved
        ∧ s = .reading { resolved with
            pending := .gathered arg reader text, begun := resolved.begun + 1 } outer)
      ∨ (frame.command.takesAnySubcommand = true ∧ s = .skipping text frame outer) := by
  unfold positional at h
  split at h
  · next arg reader hat =>
    obtain ⟨resolved, hresolve, rfl⟩ := map_eq_ok_iff.1 h
    exact Or.inl ⟨arg, reader, resolved, hat, hresolve, rfl⟩
  · split at h
    · next hany => exact Or.inr ⟨hany, (Except.ok.inj h).symm⟩
    · cases h

theorem command_of_positional {frame : Frame} {outer : List Frame} {text : String} {s : State}
    (h : ∃ arg reader resolved, frame.command.positionals[frame.begun]? = some (arg, reader)
      ∧ frame.resolve = .ok resolved
      ∧ s = .reading { resolved with
          pending := .gathered arg reader text, begun := resolved.begun + 1 } outer) :
    ∃ frame' : Frame, frame'.command = frame.command ∧ s = .reading frame' outer := by
  obtain ⟨arg, reader, resolved, -, hresolve, rfl⟩ := h
  refine ⟨{ resolved with pending := .gathered arg reader text, begun := resolved.begun + 1 }, ?_,
    rfl⟩
  exact (resolve_ok hresolve).1.command

/-- A frame takes a word for itself, whatever waits. -/
def Takes (frame : Frame) (text : String) (frame' : Frame) : Prop :=
  ∀ outer, frame.step outer text = .ok (.reading frame' outer)

/-- A frame at which a word is the name of a subcommand. -/
structure Chooses (frame : Frame) (text : String) (sub : Command) : Prop where
  trailing : frame.trailing = false
  awaiting : frame.isAwaiting = false
  find : frame.command.find? text = some sub

theorem word_ok {frame : Frame} {outer : List Frame} {text : String} {s : State}
    (h : frame.word outer text = .ok s) :
    (∃ frame' : Frame, frame'.command = frame.command ∧ s = .reading frame' outer)
      ∨ (frame.command.takesAnySubcommand = true ∧ s = .skipping text frame outer) := by
  unfold word at h
  split at h
  · cases h
    exact Or.inl ⟨{ frame with trailing := true }, rfl, rfl⟩
  · obtain ⟨frame', hlong, rfl⟩ := map_eq_ok_iff.1 h
    obtain ⟨arg, -, hbegin⟩ := long_ok hlong
    exact Or.inl ⟨frame', (samePlace_begin hbegin).command, rfl⟩
  · obtain ⟨frame', hletters, rfl⟩ := map_eq_ok_iff.1 h
    exact Or.inl ⟨frame', (samePlace_letters hletters).command, rfl⟩
  · split at h
    · next arg reader _ =>
      cases h
      exact Or.inl ⟨{ frame with pending := .gathered arg reader text }, rfl, rfl⟩
    · exact (positional_ok h).imp_left command_of_positional

/-- **What a word does**: the command takes it for itself, or it is the name of a subcommand, or it
asks for help, or any word is a subcommand. -/
theorem step_cases {frame : Frame} {text : String} {s : State} (h : frame.step [] text = .ok s) :
    (∃ frame', frame.Takes text frame' ∧ frame'.command = frame.command
        ∧ s = .reading frame' [])
      ∨ (∃ sub, frame.Chooses text sub ∧ s = .reading (start sub) [frame])
      ∨ (∃ command, s = .helping command)
      ∨ (frame.command.takesAnySubcommand = true ∧ s = .skipping text frame []) := by
  -- what a frame takes with nothing around it, it takes inside of anything
  have htakes : ∀ frame', s = .reading frame' [] → frame.Takes text frame' := by
    rintro frame' rfl outer
    have hwithin := frame.step_within [] outer text
    rw [h] at hwithin
    exact hwithin
  have hown : (∃ frame' : Frame, frame'.command = frame.command ∧ s = .reading frame' [])
      ∨ (frame.command.takesAnySubcommand = true ∧ s = .skipping text frame []) →
      (∃ frame', frame.Takes text frame' ∧ frame'.command = frame.command
          ∧ s = .reading frame' [])
        ∨ (∃ sub, frame.Chooses text sub ∧ s = .reading (start sub) [frame])
        ∨ (∃ command, s = .helping command)
        ∨ (frame.command.takesAnySubcommand = true ∧ s = .skipping text frame []) := by
    rintro (⟨frame', hcommand, hs⟩ | hany)
    · exact Or.inl ⟨frame', htakes frame' hs, hcommand, hs⟩
    · exact Or.inr (Or.inr (Or.inr hany))
  unfold step at h
  split at h
  · exact hown ((positional_ok h).imp_left command_of_positional)
  · next htrailing =>
    split at h
    · exact hown (word_ok h)
    · next hawaiting =>
      split at h
      · next sub hfind =>
        have hchooses : frame.Chooses text sub :=
          ⟨Bool.eq_false_iff.2 htrailing, Bool.eq_false_iff.2 hawaiting, hfind⟩
        exact Or.inr (Or.inl ⟨sub, hchooses, (Except.ok.inj h).symm⟩)
      · split at h
        · exact Or.inr (Or.inr (Or.inl ⟨_, (Except.ok.inj h).symm⟩))
        · exact hown (word_ok h)

end Frame

/-! ## Closing what waits -/

/-- The outermost command of a state is the given one, as long as it still matters. -/
def State.StartedIn (command : Command) : State → Prop
  | reading frame outer => (outer.getLastD frame).command = command
  | skipping _ frame outer => (outer.getLastD frame).command = command
  | helping _ => True

theorem State.StartedIn.step {command : Command} {s s' : State} {word : String}
    (hs : s.StartedIn command) (h : s.step word = .ok s') : s'.StartedIn command := by
  have hlast : ∀ (frame frame' : Frame) (outer : List Frame), frame'.command = frame.command →
      (outer.getLastD frame').command = (outer.getLastD frame).command := by
    intro frame frame' outer hcommand
    cases outer with
    | nil => exact hcommand
    | cons f outer => rw [List.getLastD_cons, List.getLastD_cons]
  cases s with
  | reading frame outer =>
    have hstep : frame.step outer word = .ok s' := h
    have hwithin := frame.step_within [] outer word
    rw [List.nil_append, hstep] at hwithin
    obtain ⟨s₀, hinner, rfl⟩ := map_eq_ok_iff.1 hwithin.symm
    rcases Frame.step_cases hinner with ⟨frame', -, hcommand, rfl⟩ | ⟨sub, -, rfl⟩ |
      ⟨help, rfl⟩ | ⟨-, rfl⟩
    · exact (hlast frame frame' outer hcommand).trans hs
    · -- the subcommand's frame stands inside of this one, which stays outermost
      dsimp only [within, StartedIn]
      rw [List.singleton_append, List.getLastD_cons]
      exact hs
    · trivial
    · exact hs
  | skipping name frame outer =>
    cases h
    exact hs
  | helping help =>
    dsimp only [State.step] at h
    split at h
    · cases h
      trivial
    · split at h
      · cases h
        trivial
      · cases h

theorem State.StartedIn.run {command : Command} {s s' : State} {words : List String}
    (hs : s.StartedIn command) (h : s.run words = .ok s') : s'.StartedIn command := by
  induction words generalizing s with
  | nil =>
    cases h
    exact hs
  | cons word words ih =>
    obtain ⟨next, hstep, hrest⟩ := bind_eq_ok_iff.1 h
    exact ih (hs.step hstep) hrest

/-- Closing goes on with a command that waits, once all that is inside of it is closed. -/
theorem Frame.closeAll_append (frame parent : Frame) (outer around : List Frame)
    (path : List (String × Entries Value)) :
    frame.closeAll path (outer ++ parent :: around)
      = (frame.closeAll path outer).bind fun found =>
          parent.closeAll (((outer.getLastD frame).command.name, found.values) :: found.path)
            around := by
  induction outer generalizing frame path with
  | nil =>
    rw [List.nil_append, closeAll, closeAll]
    cases frame.close !path.isEmpty <;> rfl
  | cons next outer ih =>
    rw [List.cons_append, closeAll, closeAll, List.getLastD_cons]
    cases frame.close !path.isEmpty with
    | error fault => rfl
    | ok values => exact ih next _

theorem State.finish_within {command : Command} {s : State} (hs : s.StartedIn command)
    (parent : Frame) (around : List Frame) :
    (s.within (parent :: around)).finish
      = s.finish.bind fun found =>
          parent.closeAll ((command.name, found.values) :: found.path) around := by
  cases s with
  | reading frame outer =>
    have hlast : (outer.getLastD frame).command = command := hs
    dsimp only [within, finish]
    rw [Frame.closeAll_append, hlast]
  | skipping name frame outer =>
    have hlast : (outer.getLastD frame).command = command := hs
    dsimp only [within, finish]
    rw [Frame.closeAll_append, hlast]
  | helping help => rfl

/-- **A subcommand reads by itself.** -/
theorem Command.run_subcommand (sub : Command) (parent : Frame) (outer : List Frame)
    (words : List String) :
    (State.run words (.reading (.start sub) (parent :: outer))).bind State.finish
      = (sub.parse words).bind fun found =>
          parent.closeAll ((sub.name, found.values) :: found.path) outer := by
  have hwithin := State.run_within (parent :: outer) words (.reading (.start sub) [])
  have hstarted : (State.reading (.start sub) []).StartedIn sub := rfl
  rw [State.within, List.nil_append] at hwithin
  rw [hwithin, parse_eq]
  cases hrun : State.run words (.reading (.start sub) []) with
  | error fault => rfl
  | ok s => exact State.finish_within (hstarted.run hrun) parent outer

/-! ## Accepted command lines -/

namespace Frame

/-- A frame takes words for itself, one after the other. -/
inductive Reads : Frame → List String → Frame → Prop where
  | nil {frame : Frame} : Reads frame [] frame
  | cons {frame next frame' : Frame} {word : String} {words : List String} :
      frame.Takes word next → Reads next words frame' → Reads frame (word :: words) frame'

/-- The words after a subcommand that may be any word are passed over. -/
theorem run_skipping (name : String) (frame : Frame) (outer : List Frame) (words : List String) :
    State.run words (.skipping name frame outer) = .ok (.skipping name frame outer) := by
  induction words with
  | nil => rfl
  | cons word words ih => exact ih

theorem finish_run_helping_ne_ok (command : Command) (words : List String) (found : Matches) :
    (State.run words (.helping command)).bind State.finish ≠ .ok found := by
  induction words generalizing command with
  | nil => exact fun h => by cases h
  | cons word words ih =>
    rw [State.run_cons]
    dsimp only [State.step]
    split
    · exact ih _
    · split
      · exact ih _
      · exact fun h => by cases h

/-- How a command line is accepted from a frame on, with what is found. -/
inductive Accepts (frame : Frame) (words : List String) (found : Matches) : Prop where
  /-- All words are the command's own. -/
  | alone (frame' : Frame) : frame.Reads words frame' → frame'.close false = .ok found.values →
      found.path = [] → Accepts frame words found
  /-- The command's own words, the name of a subcommand, and what the subcommand accepts. -/
  | subcommand (frame' : Frame) (front back : List String) (sub : Command) (below : Matches) :
      words = front ++ sub.name :: back → frame.Reads front frame' →
      frame'.Chooses sub.name sub → sub.parse back = .ok below →
      frame'.close true = .ok found.values →
      found.path = (sub.name, below.values) :: below.path → Accepts frame words found
  /-- The command's own words, and any word as a subcommand. -/
  | anything (frame' : Frame) (front back : List String) (name : String) :
      words = front ++ name :: back → frame.Reads front frame' →
      frame.command.takesAnySubcommand = true → frame'.close true = .ok found.values →
      found.path = [(name, [])] → Accepts frame words found

theorem Accepts.cons {frame next : Frame} {word : String} {words : List String} {found : Matches}
    (htakes : frame.Takes word next) (hcommand : next.command = frame.command)
    (h : next.Accepts words found) : frame.Accepts (word :: words) found := by
  cases h with
  | alone frame' hreads hclose hpath => exact .alone frame' (.cons htakes hreads) hclose hpath
  | subcommand frame' front back sub below hwords hreads hchooses hparse hclose hpath =>
    subst hwords
    exact .subcommand frame' (word :: front) back sub below rfl (.cons htakes hreads) hchooses
      hparse hclose hpath
  | anything frame' front back name hwords hreads hany hclose hpath =>
    subst hwords
    rw [hcommand] at hany
    exact .anything frame' (word :: front) back name rfl (.cons htakes hreads) hany hclose hpath

theorem close_ok_of_closeAll {frame : Frame} {path : List (String × Entries Value)}
    {found : Matches} (h : frame.closeAll path [] = .ok found) :
    frame.close (!path.isEmpty) = .ok found.values ∧ found.path = path := by
  obtain ⟨values, hclose, rfl⟩ := map_eq_ok_iff.1 h
  exact ⟨hclose, rfl⟩

/-- **How a frame comes to be accepted.** -/
theorem accepts_of_run {frame : Frame} {words : List String} {found : Matches}
    (h : (State.run words (.reading frame [])).bind State.finish = .ok found) :
    frame.Accepts words found := by
  induction words generalizing frame with
  | nil =>
    obtain ⟨hclose, hpath⟩ := close_ok_of_closeAll h
    exact .alone frame .nil hclose hpath
  | cons word words ih =>
    obtain ⟨s', hrun, hfinish⟩ := bind_eq_ok_iff.1 h
    obtain ⟨s, hs, hrest⟩ := bind_eq_ok_iff.1 hrun
    have hfound : (s.run words).bind State.finish = .ok found :=
      bind_eq_ok_iff.2 ⟨s', hrest, hfinish⟩
    rcases step_cases hs with ⟨frame', htakes, hcommand, rfl⟩ | ⟨sub, hchooses, rfl⟩ |
      ⟨help, rfl⟩ | ⟨hany, rfl⟩
    · exact (ih hfound).cons htakes hcommand
    · -- the rest is the subcommand's, and this frame is closed after it
      rw [sub.run_subcommand frame [] words] at hfound
      obtain ⟨below, hparse, hcloseAll⟩ := bind_eq_ok_iff.1 hfound
      obtain ⟨hclose, hpath⟩ := close_ok_of_closeAll hcloseAll
      have hname := Command.name_of_find? hchooses.find
      subst hname
      exact .subcommand frame [] words sub below rfl .nil hchooses hparse hclose hpath
    · exact absurd hfound (finish_run_helping_ne_ok help words found)
    · rw [run_skipping] at hfound
      obtain ⟨hclose, hpath⟩ := close_ok_of_closeAll hfound
      exact .anything frame [] words word rfl .nil hany hclose hpath

/-- How a frame is closed: the argument begun last is read, defaults are added, and nothing that is
needed is missing. -/
theorem close_ok {frame : Frame} {hasSubcommand : Bool} {values : Entries Value}
    (h : frame.close hasSubcommand = .ok values) :
    ∃ resolved, frame.resolve = .ok resolved
      ∧ resolved.command.args.foldlM addDefault resolved.values = .ok values
      ∧ resolved.check hasSubcommand = .ok () := by
  obtain ⟨resolved, hresolve, h⟩ := bind_eq_ok_iff.1 h
  obtain ⟨values', hdefaults, h⟩ := bind_eq_ok_iff.1 h
  obtain ⟨⟨⟩, hcheck, h⟩ := bind_eq_ok_iff.1 h
  cases h
  exact ⟨resolved, hresolve, hdefaults, hcheck⟩

/-- A frame with nothing missing has the subcommand and the arguments that its command needs. -/
theorem check_ok {frame : Frame} {hasSubcommand : Bool} (h : frame.check hasSubcommand = .ok ()) :
    (frame.command.needsSubcommand = true → hasSubcommand = true)
      ∧ ∀ arg ∈ frame.command.args, arg.required = true → frame.has arg = true := by
  unfold check at h
  dsimp only at h
  split at h
  · cases h
  · split at h
    · cases h
    · next hneeds =>
      split at h
      · cases h
      · next hmissing =>
        constructor
        · intro hsub
          rw [hsub, Bool.true_and] at hneeds
          simpa using hneeds
        · intro arg hmem hrequired
          cases hhas : frame.has arg with
          | true => rfl
          | false =>
            refine absurd (List.any_eq_true.2 ⟨arg, hmem, ?_⟩) hmissing
            rw [hrequired, hhas]
            rfl

theorem Reads.command_eq {frame frame' : Frame} {words : List String}
    (h : frame.Reads words frame') : frame'.command = frame.command := by
  induction h with
  | nil => rfl
  | @cons frame next frame' word words htakes _ ih =>
    rcases step_cases (htakes []) with ⟨frame', -, hcommand, heq⟩ | ⟨sub, -, heq⟩ | ⟨help, heq⟩ |
      ⟨-, heq⟩
    · cases heq
      exact ih.trans hcommand
    · cases heq
    · cases heq
    · cases heq

end Frame

/--
**Accepted command lines.**

A command line is accepted as the words of the command alone, or as its words, the name of one of
its subcommands, and a command line that the subcommand accepts.
-/
theorem Command.accepts_of_parse {command : Command} {words : List String} {found : Matches}
    (h : command.parse words = .ok found) : (Frame.start command).Accepts words found :=
  Frame.accepts_of_run h

end CommandLine

end Switchboard
