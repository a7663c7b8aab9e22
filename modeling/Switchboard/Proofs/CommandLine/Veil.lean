import Switchboard.Proofs.CommandLine.Values

/-!
# Reading under a veil

Of a token only its length may matter. A veil replaces every character of a token, so that two
tokens of one length look alike under it, and it may lie over all that is read from a command line:
over values, over a frame, over what was found. Reading is `Blind`: what a word does to a veiled
state it does to the state, up to the veil, and so do all words in turn (`State.blind_run`) and the
end of the words (`State.blind_finish`).

It is the word with the token in it that two command lines differ in. No command makes more of that
word than its length (`Frame.step_token`), if it knows `--token` only as a token and no subcommand
by such a name. So the two command lines are read alike (`Command.parse_token`).
-/

namespace Switchboard

/-! ## Functions that do not see through a veil -/

/-- What a function does to a veiled argument it does to the argument, up to a veil over what it
gives. It fails in the same way on both. -/
def Blind {ε α β : Type} (veil : α → α) (veil' : β → β) (f : α → Except ε β) : Prop :=
  ∀ a, (f (veil a)).map veil' = (f a).map veil'

namespace Blind

variable {ε α β γ : Type} {veil : α → α} {veil' : β → β} {veil'' : γ → γ} {f : α → Except ε β}

/-- What looks alike under a veil is done alike. -/
theorem bind_alike {k k' : β → Except ε γ}
    (hk : ∀ a b, veil' a = veil' b → (k a).map veil'' = (k' b).map veil'') {x y : Except ε β}
    (h : x.map veil' = y.map veil') : (x.bind k).map veil'' = (y.bind k').map veil'' := by
  cases x with
  | error e =>
    cases y with
    | error e' =>
      cases h
      rfl
    | ok b => cases h
  | ok a =>
    cases y with
    | error e' => cases h
    | ok b => exact hk a b (Except.ok.inj h)

theorem map_alike {k k' : β → γ} (hk : ∀ a b, veil' a = veil' b → veil'' (k a) = veil'' (k' b))
    {x y : Except ε β} (h : x.map veil' = y.map veil') :
    (x.map k).map veil'' = (y.map k').map veil'' := by
  have hok (a b : β) (hab : veil' a = veil' b) :
      (Except.ok (k a) : Except ε γ).map veil'' = (Except.ok (k' b) : Except ε γ).map veil'' :=
    congrArg Except.ok (hk a b hab)
  exact bind_alike hok h

theorem congr (hf : Blind veil veil' f) {a b : α} (h : veil a = veil b) :
    (f a).map veil' = (f b).map veil' := by
  rw [← hf a, h, hf b]

theorem bind_congr {k : β → Except ε γ} (hk : Blind veil' veil'' k) {x y : Except ε β}
    (h : x.map veil' = y.map veil') : (x.bind k).map veil'' = (y.bind k).map veil'' := by
  exact bind_alike (fun _ _ hab => hk.congr hab) h

theorem bind {k : β → Except ε γ} (hf : Blind veil veil' f) (hk : Blind veil' veil'' k) :
    Blind veil veil'' fun a => (f a).bind k :=
  fun a => hk.bind_congr (hf a)

theorem map {k : β → γ} (hf : Blind veil veil' f) (hk : ∀ b, veil'' (k (veil' b)) = veil'' (k b)) :
    Blind veil veil'' fun a => (f a).map k := by
  intro a
  refine map_alike (fun b b' hb => ?_) (hf a)
  rw [← hk b, hb, hk b']

theorem foldlM {ι : Type} {f : α → ι → Except ε α} (hf : ∀ i, Blind veil veil (f · i))
    (is : List ι) (hveil : ∀ a, veil (veil a) = veil a) : Blind veil veil (is.foldlM f ·) := by
  induction is with
  | nil => exact fun a => congrArg Except.ok (hveil a)
  | cons i is ih => exact (hf i).bind ih

end Blind

/-! ## Veils -/

/-- A token of which only the length is to be seen. -/
def Token.veil (token : String) : String := String.ofList (List.replicate token.length '*')

theorem Token.length_veil (token : String) : (veil token).length = token.length := by
  simp [veil]

theorem Token.veil_congr {token token' : String} (h : token.length = token'.length) :
    veil token = veil token' := by
  rw [veil, veil, h]

theorem Token.veil_veil (token : String) : veil (veil token) = veil token :=
  veil_congr (length_veil token)

namespace CommandLine

/-- A veil over a value, if it is that of a token. -/
def Value.veil (id : String) (value : Value) : Value :=
  match value with
  | .text token => if id = "token" then .text (Token.veil token) else .text token
  | other => other

theorem Value.veil_veil (id : String) (value : Value) :
    (value.veil id).veil id = value.veil id := by
  cases value with
  | text token =>
    by_cases hid : id = "token"
    · simp [Value.veil, hid, Token.veil_veil]
    · simp [Value.veil, hid]
  | _ => rfl

/-- A veil over values. -/
def veilValues (values : Entries Value) : Entries Value :=
  values.map fun entry => (entry.1, entry.2.veil entry.1)

theorem veilValues_veilValues (values : Entries Value) :
    veilValues (veilValues values) = veilValues values := by
  unfold veilValues
  rw [List.map_map]
  refine List.map_congr_left fun entry _ => ?_
  exact congrArg (Prod.mk entry.1) (Value.veil_veil entry.1 entry.2)

theorem get?_veilValues (id : String) (values : Entries Value) :
    Entries.get? id (veilValues values) = (Entries.get? id values).map (Value.veil id) := by
  induction values with
  | nil => rfl
  | cons entry values ih =>
    obtain ⟨key, value⟩ := entry
    rw [veilValues, List.map_cons, Entries.get?, Entries.get?]
    by_cases hkey : key = id
    · simp [hkey]
    · rw [if_neg hkey, if_neg hkey]
      exact ih

theorem veilValues_insert (id : String) (value : Value) (values : Entries Value) :
    veilValues (Entries.insert id value values)
      = Entries.insert id (value.veil id) (veilValues values) := by
  induction values with
  | nil => rfl
  | cons entry values ih =>
    obtain ⟨key, old⟩ := entry
    have hcons : veilValues ((key, old) :: values) = (key, old.veil key) :: veilValues values := rfl
    rw [hcons, Entries.insert, Entries.insert]
    by_cases hlt : id < key
    · rw [if_pos hlt, if_pos hlt]
      rfl
    · rw [if_neg hlt, if_neg hlt]
      by_cases heq : id = key
      · rw [if_pos heq, if_pos heq]
        rfl
      · rw [if_neg heq, if_neg heq, ← ih]
        rfl

/-- A count is not a text, and no veil lies over it. -/
theorem count_veilValues (id : String) (values : Entries Value)
    (path path' : List (String × Entries Value)) :
    Matches.count id ⟨veilValues values, path⟩ = Matches.count id ⟨values, path'⟩ := by
  unfold Matches.count
  dsimp only
  rw [get?_veilValues]
  cases Entries.get? id values with
  | none => rfl
  | some value =>
    cases value with
    | text token =>
      by_cases hid : id = "token"
      · simp [Value.veil, hid]
      · simp [Value.veil, hid]
    | _ => rfl

/-- A veil over what was found for commands. -/
def veilPath (path : List (String × Entries Value)) : List (String × Entries Value) :=
  path.map fun entry => (entry.1, veilValues entry.2)

/-- A veil over what was found. -/
def Matches.veil (found : Matches) : Matches := ⟨veilValues found.values, veilPath found.path⟩

namespace Frame

/-- A veil over a frame. -/
def veil (frame : Frame) : Frame := { frame with values := veilValues frame.values }

/-- The veil lies over the values alone. -/
theorem veil_mk (command : Command) (values : Entries Value) (pending : Pending) (begun : Nat)
    (trailing : Bool) :
    veil ⟨command, veilValues values, pending, begun, trailing⟩
      = veil ⟨command, values, pending, begun, trailing⟩ := by
  unfold veil
  dsimp only
  rw [veilValues_veilValues]

theorem veil_veil (frame : Frame) : frame.veil.veil = frame.veil :=
  veil_mk frame.command frame.values frame.pending frame.begun frame.trailing

end Frame

/-- A veil over a state. -/
def State.veil : State → State
  | reading frame outer => reading frame.veil (outer.map Frame.veil)
  | skipping name frame outer => skipping name frame.veil (outer.map Frame.veil)
  | helping command => helping command

/-! ## Reading is blind -/

namespace Frame

theorem has_veil (frame : Frame) (arg : Arg) : frame.veil.has arg = frame.has arg := by
  have hget := get?_veilValues arg.id frame.values
  unfold has veil
  dsimp only
  rw [hget, Option.isSome_map]

theorem veil_put (frame : Frame) (arg : Arg) (value : Value) :
    (frame.veil.put arg value).veil = (frame.put arg value).veil := by
  unfold veil put
  dsimp only
  rw [veilValues_insert, veilValues_insert, veilValues_veilValues]

theorem blind_give (arg : Arg) (reader : Reader) (word : String) :
    Blind veil veil (give · arg reader word) := by
  intro frame
  dsimp only [give]
  rw [has_veil]
  split
  · rfl
  · cases reader.read word with
    | error fault => rfl
    | ok value => exact congrArg Except.ok (frame.veil_put arg value)

theorem blind_resolve : Blind veil veil resolve := by
  intro frame
  have hpending : frame.veil.pending = frame.pending := rfl
  unfold resolve
  rw [hpending]
  split
  · exact congrArg Except.ok frame.veil_veil
  · rfl
  · next arg reader word _ => exact blind_give arg reader word { frame with pending := .nothing }

theorem blind_request (fault : Fault) : Blind veil veil (request · fault) :=
  blind_resolve.bind fun _ => rfl

theorem veil_count (frame : Frame) (arg : Arg) :
    (frame.veil.count arg).veil = (frame.count arg).veil := by
  have hcount : Matches.count arg.id ⟨frame.veil.values, []⟩
      = Matches.count arg.id ⟨frame.values, []⟩ := count_veilValues arg.id frame.values [] []
  unfold count
  rw [hcount]
  exact frame.veil_put arg _

theorem blind_begin (arg : Arg) (attached : Option String) :
    Blind veil veil (begin · arg attached) := by
  intro frame
  dsimp only [begin]
  split
  · rfl
  · next _ reader word _ => exact blind_resolve.bind (blind_give arg reader word) frame
  · next _ reader _ =>
    exact blind_resolve.map (fun frame => veil_mk ..) frame
  · have hflag : Blind veil veil fun frame : Frame =>
        if frame.has arg then (Except.error .argumentConflict : Except Fault Frame)
        else .ok (frame.put arg (.bool true)) := by
      intro frame
      dsimp only
      rw [has_veil]
      split
      · rfl
      · exact congrArg Except.ok (frame.veil_put arg _)
    exact blind_resolve.bind hflag frame
  · exact blind_resolve.map (fun frame => frame.veil_count arg) frame
  · rfl

theorem blind_long (name : String) (attached : Option String) :
    Blind veil veil (long · name attached) := by
  intro frame
  have hcommand : frame.veil.command = frame.command := rfl
  dsimp only [long]
  rw [hcommand]
  split
  · next arg _ => exact blind_begin arg attached frame
  · split
    · split
      · rfl
      · exact blind_request .displayHelp frame
    · split
      · split
        · rfl
        · exact blind_request .displayVersion frame
      · rfl

theorem blind_letter (c : Char) : Blind veil veil (letter · c) := by
  intro frame
  have hcommand : frame.veil.command = frame.command := rfl
  dsimp only [letter]
  rw [hcommand]
  split
  · next arg _ => exact blind_begin arg none frame
  · split
    · exact blind_request .displayHelp frame
    · split
      · exact blind_request .displayVersion frame
      · rfl

theorem blind_letters (letters : List Char) : Blind veil veil (letters.foldlM letter ·) :=
  Blind.foldlM blind_letter letters veil_veil

/-! ### Words -/

theorem map_veil_veil (outer : List Frame) : (outer.map veil).map veil = outer.map veil := by
  rw [List.map_map]
  exact List.map_congr_left fun frame _ => frame.veil_veil

/-- What is around a frame is veiled with it. -/
theorem veil_reading {frame frame' : Frame} (h : frame.veil = frame'.veil) (outer : List Frame) :
    State.veil (.reading frame (outer.map veil)) = State.veil (.reading frame' outer) := by
  rw [State.veil, State.veil, h, map_veil_veil]

theorem map_reading_veil {x y : Except Fault Frame} (h : x.map veil = y.map veil)
    (outer : List Frame) :
    (x.map (.reading · (outer.map veil))).map State.veil
      = (y.map (.reading · outer)).map State.veil :=
  Blind.map_alike (fun _ _ hframe => veil_reading hframe outer) h

theorem positional_veil (frame : Frame) (outer : List Frame) (word : String) :
    (frame.veil.positional (outer.map veil) word).map State.veil
      = (frame.positional outer word).map State.veil := by
  have hcommand : frame.veil.command = frame.command := rfl
  have hbegun : frame.veil.begun = frame.begun := rfl
  unfold positional
  rw [hcommand, hbegun]
  split
  · next arg reader _ =>
    refine Blind.map_alike (fun resolved resolved' h => veil_reading ?_ outer) (blind_resolve frame)
    -- what waits and what is counted is not under the veil
    unfold veil at h ⊢
    injection h with hcommand hvalues hpending hbegun htrailing
    dsimp only
    rw [hcommand, hvalues, hbegun, htrailing]
  · split
    · refine congrArg Except.ok ?_
      rw [State.veil, State.veil, veil_veil, map_veil_veil]
    · rfl

theorem word_veil (frame : Frame) (outer : List Frame) (text : String) :
    (frame.veil.word (outer.map veil) text).map State.veil
      = (frame.word outer text).map State.veil := by
  have hpending : frame.veil.pending = frame.pending := rfl
  unfold word
  split
  · exact congrArg Except.ok (veil_reading (veil_mk ..) outer)
  · exact map_reading_veil (blind_long _ _ frame) outer
  · exact map_reading_veil (blind_letters _ frame) outer
  · rw [hpending]
    split
    · exact congrArg Except.ok (veil_reading (veil_mk ..) outer)
    · exact frame.positional_veil outer text

theorem step_veil (frame : Frame) (outer : List Frame) (text : String) :
    (frame.veil.step (outer.map veil) text).map State.veil
      = (frame.step outer text).map State.veil := by
  have hcommand : frame.veil.command = frame.command := rfl
  have htrailing : frame.veil.trailing = frame.trailing := rfl
  have hawaiting : frame.veil.isAwaiting = frame.isAwaiting := rfl
  unfold step
  rw [hcommand, htrailing, hawaiting]
  split
  · exact frame.positional_veil outer text
  · split
    · exact frame.word_veil outer text
    · split
      · next sub _ =>
        -- the frame itself is around the subcommand from now on
        refine congrArg Except.ok ?_
        rw [State.veil, State.veil, List.map_cons, List.map_cons, veil_veil, map_veil_veil]
      · split
        · rfl
        · exact frame.word_veil outer text

end Frame

namespace State

/-- **A word does to a veiled state what it does to the state.** -/
theorem blind_step (word : String) : Blind veil veil (State.step word) := by
  intro s
  cases s with
  | reading frame outer => exact frame.step_veil outer word
  | skipping name frame outer =>
    refine congrArg Except.ok ?_
    rw [veil, veil, Frame.veil_veil, Frame.map_veil_veil]
  | helping command => rfl

theorem veil_veil (s : State) : s.veil.veil = s.veil := by
  cases s with
  | reading frame outer => rw [veil, veil, Frame.veil_veil, Frame.map_veil_veil]
  | skipping name frame outer => rw [veil, veil, Frame.veil_veil, Frame.map_veil_veil]
  | helping command => rfl

/-- So do all words in turn. -/
theorem blind_run (words : List String) : Blind veil veil (State.run words) :=
  Blind.foldlM blind_step words veil_veil

end State

/-! ### The end of the words -/

namespace Frame

theorem blind_addDefault (arg : Arg) : Blind veilValues veilValues (addDefault · arg) := by
  intro values
  dsimp only
  rw [addDefault_eq, addDefault_eq, get?_veilValues, Option.isSome_map]
  split
  · exact congrArg Except.ok (veilValues_veilValues values)
  · cases arg.defaultValue? with
    | error fault => rfl
    | ok value =>
      refine congrArg Except.ok ?_
      cases value with
      | none => exact veilValues_veilValues values
      | some value =>
        dsimp only
        rw [veilValues_insert, veilValues_insert, veilValues_veilValues]

theorem check_veil (frame : Frame) (hasSubcommand : Bool) :
    frame.veil.check hasSubcommand = frame.check hasSubcommand := by
  have hcommand : frame.veil.command = frame.command := rfl
  have hempty : frame.veil.values.isEmpty = frame.values.isEmpty := List.isEmpty_map
  unfold check
  rw [hcommand, hempty]
  simp only [has_veil]

theorem blind_close (hasSubcommand : Bool) : Blind veil veilValues (close · hasSubcommand) := by
  have hends : Blind veil veilValues fun frame =>
      (frame.command.args.foldlM addDefault frame.values).bind fun values =>
        (frame.check hasSubcommand).map fun _ => values := by
    intro frame
    have hcommand : frame.veil.command = frame.command := rfl
    have hdefaults := Blind.foldlM blind_addDefault frame.command.args veilValues_veilValues
      frame.values
    dsimp only
    rw [check_veil, hcommand]
    have hchecked : Blind veilValues veilValues fun values =>
        (frame.check hasSubcommand).map fun _ => values := by
      intro values
      cases frame.check hasSubcommand with
      | error fault => rfl
      | ok _ => exact congrArg Except.ok (veilValues_veilValues values)
    exact hchecked.bind_congr hdefaults
  exact blind_resolve.bind hends

/-- Commands that look alike are closed alike, with those around them and what was found below. -/
theorem closeAll_congr {frame frame' : Frame} {outer outer' : List Frame}
    {path path' : List (String × Entries Value)} (hframe : frame.veil = frame'.veil)
    (houter : outer.map veil = outer'.map veil) (hpath : veilPath path = veilPath path') :
    (frame.closeAll path outer).map Matches.veil
      = (frame'.closeAll path' outer').map Matches.veil := by
  have hempty : path.isEmpty = path'.isEmpty := by
    have hveiled (path : List (String × Entries Value)) :
        path.isEmpty = (veilPath path).isEmpty := List.isEmpty_map.symm
    rw [hveiled path, hpath, ← hveiled path']
  have hclose := (blind_close (!path.isEmpty)).congr hframe
  induction outer generalizing frame frame' outer' path path' with
  | nil =>
    obtain rfl : outer' = [] := List.map_eq_nil_iff.1 houter.symm
    rw [closeAll, closeAll, ← hempty]
    refine Blind.map_alike (fun values values' hvalues => ?_) hclose
    rw [Matches.veil, Matches.veil, hvalues, hpath]
  | cons parent outer ih =>
    obtain ⟨parent', outer'', rfl, hparent, houter'⟩ := List.map_eq_cons_iff.1 houter.symm
    rw [closeAll, closeAll, ← hempty]
    refine Blind.bind_alike (fun values values' hvalues => ?_) hclose
    have hname : frame.veil.command.name = frame'.veil.command.name := by rw [hframe]
    change frame.command.name = frame'.command.name at hname
    have hfound : veilPath ((frame.command.name, values) :: path)
        = veilPath ((frame'.command.name, values') :: path') := by
      have hcons (entry : String × Entries Value) (path : List (String × Entries Value)) :
          veilPath (entry :: path) = (entry.1, veilValues entry.2) :: veilPath path := rfl
      rw [hcons, hcons, hname, hvalues, hpath]
    exact ih hparent.symm houter'.symm hfound rfl ((blind_close _).congr hparent.symm)

end Frame

theorem State.blind_finish : Blind veil Matches.veil State.finish := by
  intro s
  cases s with
  | reading frame outer =>
    exact Frame.closeAll_congr frame.veil_veil (Frame.map_veil_veil outer) rfl
  | skipping name frame outer =>
    exact Frame.closeAll_congr frame.veil_veil (Frame.map_veil_veil outer) rfl
  | helping command => rfl

/-! ## The word with the token -/

/-- The word that gives a token. -/
def tokenWord (token : String) : String := "--token=" ++ token

theorem isLong_tokenWord (token : String) : IsLong (tokenWord token) "token" (some token) :=
  isLong_attached rfl (by decide) token

/-- A command that knows `--token` as nothing but a token, and no subcommand by such a word. -/
structure Command.Guards (command : Command) : Prop where
  arg : ∀ arg, command.args.find? (·.shape.long? = some "token") = some arg →
    arg.id = "token" ∧ arg.shape = .option "token" .token
  free : ∀ token, command.IsFree (tokenWord token)

namespace Frame

/-- Only the length of a token is checked. -/
theorem read_token {token token' : String} (h : token.length = token'.length) :
    (Reader.token.read token).map (Value.veil "token")
      = (Reader.token.read token').map (Value.veil "token") := by
  have hread (token : String) :
      Reader.token.read token = validated .text (Token.parse token) := rfl
  rw [hread, hread]
  unfold Token.parse
  rw [h]
  split
  · have hveil := Token.veil_congr h
    simp [validated, Except.map, Value.veil, hveil]
  · rfl

theorem give_token (frame : Frame) {arg : Arg} (hid : arg.id = "token") {token token' : String}
    (h : token.length = token'.length) :
    (frame.give arg .token token).map veil = (frame.give arg .token token').map veil := by
  unfold give
  split
  · rfl
  · refine Blind.map_alike (fun value value' hvalue => ?_) (read_token h)
    unfold veil put
    dsimp only
    rw [veilValues_insert, veilValues_insert, hid, hvalue]

theorem long_token {frame : Frame} (hguards : frame.command.Guards) {token token' : String}
    (h : token.length = token'.length) :
    (frame.long "token" (some token)).map veil = (frame.long "token" (some token')).map veil := by
  unfold long
  split
  · next arg hfind =>
    obtain ⟨hid, hshape⟩ := hguards.arg arg hfind
    unfold begin
    rw [hshape]
    dsimp only
    cases frame.resolve with
    | error fault => rfl
    | ok resolved => exact resolved.give_token hid h
  · rfl

/-- **No command makes more of a token than its length.** -/
theorem step_token {frame : Frame} (hguards : frame.command.Guards)
    (htrailing : frame.trailing = false) {token token' : String}
    (h : token.length = token'.length) (outer : List Frame) :
    (frame.step outer (tokenWord token)).map State.veil
      = (frame.step outer (tokenWord token')).map State.veil := by
  have hstep (token : String) : frame.step outer (tokenWord token)
      = (frame.long "token" (some token)).map (.reading · outer) := by
    obtain ⟨hfind, hhelp⟩ := hguards.free token
    have hword := word_long (isLong_tokenWord token) frame outer
    unfold step
    rw [htrailing, hfind, hhelp, if_neg Bool.false_ne_true, ← hword]
    split
    · rfl
    · dsimp only
      rw [if_neg Bool.false_ne_true]
  rw [hstep, hstep]
  have hreading {read read' : Frame} (hframe : read.veil = read'.veil) :
      State.veil (.reading read outer) = State.veil (.reading read' outer) := by
    rw [State.veil, State.veil, hframe]
  exact Blind.map_alike (fun _ _ => hreading) (long_token hguards h)

end Frame

/-! ## Command lines with a token -/

/-- A property of a command and all commands below it. -/
inductive Command.Throughout (P : Command → Prop) : Command → Prop where
  | intro {command : Command} : P command →
    (∀ sub ∈ command.subcommands, Throughout P sub) → Throughout P command

theorem Command.Throughout.self {P : Command → Prop} {command : Command}
    (h : command.Throughout P) : P command := by
  cases h with
  | intro hself _ => exact hself

theorem Command.Throughout.find? {P : Command → Prop} {command sub : Command}
    (h : command.Throughout P) {name : String} (hfind : command.find? name = some sub) :
    sub.Throughout P := by
  cases h with
  | intro _ hbelow => exact hbelow sub (List.mem_of_find?_eq_some hfind)

/-- A command without arguments and subcommands has no `--token`. -/
theorem Command.guards_simple (name : String) :
    (Command.simple name []).Throughout Command.Guards := by
  refine .intro ⟨fun arg hfind => ?_, fun token => ?_⟩ (List.forall_mem_nil _)
  · cases hfind
  · exact Command.isFree_of_subcommands_nil rfl _

/-- Where reading stands between words, if `--` was not among them. -/
def State.IsGuarded : State → Prop
  | reading frame _ => frame.command.Throughout Command.Guards ∧ frame.trailing = false
  | skipping .. => True
  | helping command => command.Throughout Command.Guards

/-- No word but `--` ends the reading of names. -/
theorem Frame.same_of_word {frame next : Frame} {outer outer' : List Frame} {text : String}
    (h : frame.word outer text = .ok (.reading next outer')) (hne : text ≠ "--") :
    next.command = frame.command ∧ next.trailing = frame.trailing := by
  rcases form_cases text with hdashes | ⟨name, attached, hlong⟩ | ⟨c, rest, hletters, hc⟩ | hplain
  · exact absurd hdashes hne
  · rw [word_long hlong] at h
    obtain ⟨frame', hread, heq⟩ := map_eq_ok_iff.1 h
    cases heq
    obtain ⟨arg, -, hbegin⟩ := long_ok hread
    exact ⟨(samePlace_begin hbegin).command, (samePlace_begin hbegin).trailing⟩
  · rw [word_letters hletters hc] at h
    obtain ⟨frame', hread, heq⟩ := map_eq_ok_iff.1 h
    cases heq
    exact ⟨(samePlace_letters hread).command, (samePlace_letters hread).trailing⟩
  · rw [word_plain hplain] at h
    split at h
    · cases h
      exact ⟨rfl, rfl⟩
    · rcases positional_ok h with ⟨arg, reader, resolved, -, hresolve, heq⟩ | ⟨-, heq⟩
      · cases heq
        exact ⟨(resolve_ok hresolve).1.command, (resolve_ok hresolve).1.trailing⟩
      · cases heq

theorem Frame.isGuarded_of_word {frame : Frame} {outer : List Frame} {text : String} {s : State}
    (hs : (State.reading frame outer).IsGuarded) (hne : text ≠ "--")
    (h : frame.word outer text = .ok s) : s.IsGuarded := by
  cases s with
  | reading next outer' =>
    obtain ⟨hcommand, htrailing⟩ := same_of_word h hne
    exact ⟨hcommand ▸ hs.1, htrailing.trans hs.2⟩
  | skipping name frame outer => trivial
  | helping command =>
    -- a word by itself does not ask for help
    rcases word_ok h with ⟨frame', -, heq⟩ | ⟨-, heq⟩
    · cases heq
    · cases heq

/-- What a word leads to is guarded too. -/
theorem State.IsGuarded.step {s s' : State} {word : String} (hs : s.IsGuarded) (hne : word ≠ "--")
    (h : s.step word = .ok s') : s'.IsGuarded := by
  cases s with
  | reading frame outer =>
    obtain ⟨hguards, htrailing⟩ := hs
    have hstep : frame.step outer word = .ok s' := h
    unfold Frame.step at hstep
    rw [htrailing, if_neg Bool.false_ne_true] at hstep
    split at hstep
    · exact Frame.isGuarded_of_word ⟨hguards, htrailing⟩ hne hstep
    · split at hstep
      · next sub hfind =>
        cases hstep
        exact ⟨hguards.find? hfind, rfl⟩
      · split at hstep
        · cases hstep
          exact hguards
        · exact Frame.isGuarded_of_word ⟨hguards, htrailing⟩ hne hstep
  | skipping name frame outer =>
    cases h
    trivial
  | helping command =>
    dsimp only [State.step] at h
    split at h
    · next below hfind =>
      cases h
      exact Command.Throughout.find? hs hfind
    · split at h
      · cases h
        exact Command.guards_simple word
      · cases h

/-- The word with the token itself. -/
theorem State.step_token {s : State} (hs : s.IsGuarded) {token token' : String}
    (h : token.length = token'.length) :
    (s.step (tokenWord token)).map veil = (s.step (tokenWord token')).map veil := by
  cases s with
  | reading frame outer => exact Frame.step_token hs.1.self hs.2 h outer
  | skipping name frame outer => rfl
  | helping command =>
    have hguards : command.Guards := Command.Throughout.self hs
    have hstep (token : String) :
        (State.helping command).step (tokenWord token) = .error .invalidSubcommand := by
      obtain ⟨hfind, hhelp⟩ := hguards.free token
      dsimp only [State.step]
      rw [hfind, hhelp]
      rfl
    rw [hstep, hstep]

/-- The words after the token are read alike, as are those in front of it, which are the same. -/
theorem State.run_token {s : State} (hs : s.IsGuarded) {front : List String}
    (hfront : "--" ∉ front) {token token' : String} (h : token.length = token'.length)
    (back : List String) :
    (s.run (front ++ tokenWord token :: back)).map veil
      = (s.run (front ++ tokenWord token' :: back)).map veil := by
  induction front generalizing s with
  | nil =>
    rw [List.nil_append, List.nil_append, run_cons, run_cons]
    exact (blind_run back).bind_congr (State.step_token hs h)
  | cons word front ih =>
    rw [List.mem_cons, not_or] at hfront
    rw [List.cons_append, List.cons_append, run_cons, run_cons]
    cases hstep : s.step word with
    | error fault => rfl
    | ok s' => exact ih (hs.step (Ne.symm hfront.1) hstep) hfront.2

/-- **Command lines that differ in a token are read alike**, if the tokens have one length. -/
theorem Command.parse_token {command : Command} (hguards : command.Throughout Guards)
    {front : List String} (hfront : "--" ∉ front) {token token' : String}
    (h : token.length = token'.length) (back : List String) :
    (command.parse (front ++ tokenWord token :: back)).map Matches.veil
      = (command.parse (front ++ tokenWord token' :: back)).map Matches.veil := by
  have hs : (State.reading (.start command) []).IsGuarded := ⟨hguards, rfl⟩
  rw [parse_eq, parse_eq]
  exact State.blind_finish.bind_congr (State.run_token hs hfront h back)

end CommandLine

end Switchboard
