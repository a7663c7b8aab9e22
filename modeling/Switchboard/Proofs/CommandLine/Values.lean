import Mathlib.Data.List.Nodup
import Switchboard.Proofs.CommandLine.Given

/-!
# The values that a command line leaves

What is under the name of an argument once a command is closed: the value of the word it was given
with, true for a flag, how often it was given, or its default. `Holds` says so for all arguments of
a command at once, by what its words give.

Two arguments of one name would share one value, so the arguments of the command must have different
names. Then a value that is recorded stays: only what is counted may be given twice.
-/

namespace Switchboard.CommandLine

theorem validated_eq_ok_iff {α : Type} {value : α → Value} {x : Except UsageError α} {v : Value} :
    validated value x = .ok v ↔ ∃ a, x = .ok a ∧ v = value a := by
  cases x with
  | ok a => simp [validated, eq_comm]
  | error error => simp [validated]

/-! ## What fits an argument -/

/-- What is given is given in the way of the argument. -/
def Given.Fits (command : Command) : Given → Prop
  | word arg reader _ =>
    arg ∈ command.args ∧ (arg.shape = .positional reader ∨ ∃ long, arg.shape = .option long reader)
  | flag arg => arg ∈ command.args ∧ ∃ long, arg.shape = .flag long
  | count arg => arg ∈ command.args ∧ ∃ long letter, arg.shape = .count long letter

/-- The word that something is given with. -/
def Given.text? : Given → Option String
  | word _ _ text => some text
  | _ => none

/-- Whether one more of the same argument is counted. -/
def Given.isCount : Given → Bool
  | count _ => true
  | _ => false

theorem Given.Fits.mem {command : Command} {given : Given} (h : given.Fits command) :
    given.arg ∈ command.args := by
  cases given with
  | word arg reader text => exact h.1
  | flag arg => exact h.1
  | count arg => exact h.1

/-- What is given of an argument that is counted is counted. -/
theorem Given.Fits.isCount_of_shape {command : Command} {given : Given} (h : given.Fits command)
    (hshape : ∃ long letter, given.arg.shape = .count long letter) : given.isCount = true := by
  obtain ⟨long, letter, hshape⟩ := hshape
  cases given with
  | word arg reader text =>
    have hshape : arg.shape = .count long letter := hshape
    rcases h.2 with hword | ⟨long', hword⟩ <;> rw [hword] at hshape <;> cases hshape
  | flag arg =>
    have hshape : arg.shape = .count long letter := hshape
    obtain ⟨long', hflag⟩ := h.2
    rw [hflag] at hshape
    cases hshape
  | count arg => rfl

theorem mem_of_positionals {command : Command} {n : Nat} {arg : Arg} {reader : Reader}
    (h : command.positionals[n]? = some (arg, reader)) :
    arg ∈ command.args ∧ arg.shape = .positional reader := by
  obtain ⟨arg', hmem, hmap⟩ := List.mem_filterMap.1 (List.mem_of_getElem? h)
  obtain ⟨reader', hshape, heq⟩ := Option.map_eq_some_iff.1 hmap
  cases heq
  unfold Shape.positional? at hshape
  split at hshape
  · next hpositional =>
    cases hshape
    exact ⟨hmem, hpositional⟩
  · cases hshape

theorem fits_of_given? {command : Command} {arg : Arg} {attached : Option String} {given : Given}
    (hmem : arg ∈ command.args) (h : arg.given? attached = some given) : given.Fits command := by
  unfold Arg.given? at h
  split at h
  · next long reader text hshape =>
    cases h
    exact ⟨hmem, Or.inr ⟨long, hshape⟩⟩
  · next long hshape =>
    cases h
    exact ⟨hmem, long, hshape⟩
  · next long letter hshape =>
    cases h
    exact ⟨hmem, long, letter, hshape⟩
  · cases h

theorem Item.fits {command : Command} {n n' : Nat} {words : List String} {gs : List Given}
    (h : Item command n words gs n') : ∀ given ∈ gs, given.Fits command := by
  cases h with
  | named hfree hlong hfind hgiven =>
    exact List.forall_mem_singleton.2 (fits_of_given? (List.mem_of_find?_eq_some hfind) hgiven)
  | valued hfree hlong hfind hshape hvalue =>
    exact List.forall_mem_singleton.2 ⟨List.mem_of_find?_eq_some hfind, Or.inr ⟨_, hshape⟩⟩
  | @letters text c rest args hfree htext hc hargs =>
    intro given hgiven
    obtain ⟨arg, hmem, rfl⟩ := List.mem_map.1 hgiven
    -- the argument belongs to one of the letters
    obtain ⟨i, hi, rfl⟩ := List.mem_iff_getElem.1 hmem
    have hfind := hargs.get (hargs.length_eq ▸ hi) hi
    exact fits_of_given? (List.mem_of_find?_eq_some hfind)
      (Frame.given?_of_letter (Frame.letter?_of_find? hfind))
  | placed hfree hdashed hat =>
    obtain ⟨hmem, hshape⟩ := mem_of_positionals hat
    exact List.forall_mem_singleton.2 ⟨hmem, Or.inl hshape⟩

theorem Fills.fits {command : Command} {n : Nat} {words : List String} {gs : List Given}
    (h : Fills command n words gs) : ∀ given ∈ gs, given.Fits command := by
  induction h with
  | nil => exact List.forall_mem_nil _
  | cons hat _ ih =>
    obtain ⟨hmem, hshape⟩ := mem_of_positionals hat
    exact List.forall_mem_cons.2 ⟨⟨hmem, Or.inl hshape⟩, ih⟩

theorem Gives.fits {command : Command} {n : Nat} {words : List String} {gs : List Given}
    (h : Gives command n words gs) : ∀ given ∈ gs, given.Fits command := by
  induction h with
  | nil => exact List.forall_mem_nil _
  | item hitem _ ih => exact List.forall_mem_append.2 ⟨hitem.fits, ih⟩
  | dashes _ hfills => exact hfills.fits

/-! ## What is recorded -/

/-- Recording leaves all other arguments alone. -/
theorem get?_record {values values' : Entries Value} {given : Given}
    (h : given.record values = .ok values') {id : String} (hid : given.arg.id ≠ id) :
    Entries.get? id values' = Entries.get? id values := by
  cases given with
  | word arg reader text =>
    dsimp only [Given.record] at h
    split at h
    · cases h
    · obtain ⟨value, -, rfl⟩ := map_eq_ok_iff.1 h
      rw [Entries.get?_insert]
      exact if_neg hid
  | flag arg =>
    dsimp only [Given.record] at h
    split at h
    · cases h
    · cases h
      rw [Entries.get?_insert]
      exact if_neg hid
  | count arg =>
    cases h
    rw [Entries.get?_insert]
    exact if_neg hid

/-- What is given is there afterwards. -/
theorem isSome_record {values values' : Entries Value} {given : Given}
    (h : given.record values = .ok values') :
    (Entries.get? given.arg.id values').isSome = true := by
  cases given with
  | word arg reader text =>
    dsimp only [Given.record] at h
    split at h
    · cases h
    · obtain ⟨value, -, rfl⟩ := map_eq_ok_iff.1 h
      rw [Entries.get?_insert]
      exact congrArg Option.isSome (if_pos rfl)
  | flag arg =>
    dsimp only [Given.record] at h
    split at h
    · cases h
    · cases h
      rw [Entries.get?_insert]
      exact congrArg Option.isSome (if_pos rfl)
  | count arg =>
    cases h
    rw [Entries.get?_insert]
    exact congrArg Option.isSome (if_pos rfl)

/-- What is not counted is not given where there is a value already. -/
theorem get?_eq_none_of_record {values values' : Entries Value} {given : Given}
    (h : given.record values = .ok values') (hcount : given.isCount = false) :
    Entries.get? given.arg.id values = none := by
  cases given with
  | word arg reader text =>
    dsimp only [Given.record] at h
    split at h
    · cases h
    · next hhas => exact Option.not_isSome_iff_eq_none.1 hhas
  | flag arg =>
    dsimp only [Given.record] at h
    split at h
    · cases h
    · next hhas => exact Option.not_isSome_iff_eq_none.1 hhas
  | count arg => cases hcount

theorem get?_records {values values' : Entries Value} {gs : List Given}
    (h : gs.foldlM Given.record values = .ok values') {id : String}
    (hid : ∀ given ∈ gs, given.arg.id ≠ id) :
    Entries.get? id values' = Entries.get? id values := by
  induction gs generalizing values with
  | nil =>
    cases h
    rfl
  | cons given gs ih =>
    obtain ⟨hgiven, hgs⟩ := List.forall_mem_cons.1 hid
    obtain ⟨mid, hfirst, hrest⟩ := bind_eq_ok_iff.1 h
    rw [ih hrest hgs, get?_record hfirst hgiven]

theorem isSome_records {values values' : Entries Value} {gs : List Given}
    (h : gs.foldlM Given.record values = .ok values') {id : String}
    (hid : (Entries.get? id values).isSome = true) : (Entries.get? id values').isSome = true := by
  induction gs generalizing values with
  | nil =>
    cases h
    exact hid
  | cons given gs ih =>
    obtain ⟨mid, hfirst, hrest⟩ := bind_eq_ok_iff.1 h
    refine ih hrest ?_
    by_cases heq : given.arg.id = id
    · exact heq ▸ isSome_record hfirst
    · rwa [get?_record hfirst heq]

/-- **A value that is recorded stays**, if its argument is not one that is counted. -/
theorem get?_records_of_isSome {values values' : Entries Value} {gs : List Given}
    (h : gs.foldlM Given.record values = .ok values') {id : String}
    (hid : (Entries.get? id values).isSome = true)
    (hcount : ∀ given ∈ gs, given.arg.id = id → given.isCount = false) :
    Entries.get? id values' = Entries.get? id values := by
  refine get?_records h fun given hmem heq => ?_
  -- giving it again would be refused
  obtain ⟨front, back, rfl⟩ := List.append_of_mem hmem
  rw [List.foldlM_append] at h
  obtain ⟨mid, hfront, hback⟩ := bind_eq_ok_iff.1 h
  obtain ⟨mid', hrecord, -⟩ := bind_eq_ok_iff.1 hback
  have hnone := get?_eq_none_of_record hrecord (hcount given hmem heq)
  have hsome := isSome_records hfront hid
  rw [heq] at hnone
  rw [hnone] at hsome
  cases hsome

/-- The value right after something is given stays. -/
theorem exists_record_of_mem {values values' : Entries Value} {gs : List Given}
    (h : gs.foldlM Given.record values = .ok values') {given : Given} (hmem : given ∈ gs)
    (hcount : ∀ other ∈ gs, other.arg.id = given.arg.id → other.isCount = false) :
    ∃ before after, given.record before = .ok after
      ∧ Entries.get? given.arg.id values' = Entries.get? given.arg.id after := by
  obtain ⟨front, back, rfl⟩ := List.append_of_mem hmem
  rw [List.foldlM_append] at h
  obtain ⟨before, -, hback⟩ := bind_eq_ok_iff.1 h
  obtain ⟨after, hrecord, hrest⟩ := bind_eq_ok_iff.1 hback
  refine ⟨before, after, hrecord, get?_records_of_isSome hrest (isSome_record hrecord) ?_⟩
  exact fun other hother => hcount other (by simp [hother])

/-- How often an argument is given. -/
def timesGiven (id : String) (gs : List Given) : Nat := gs.countP (·.arg.id = id)

theorem timesGiven_cons (id : String) (given : Given) (gs : List Given) :
    timesGiven id (given :: gs) = timesGiven id gs + if given.arg.id = id then 1 else 0 := by
  simp only [timesGiven, List.countP_cons, decide_eq_true_eq]

theorem count_record {values values' : Entries Value} {given : Given}
    (h : given.record values = .ok values') {id : String}
    (hcount : given.arg.id = id → given.isCount = true) :
    Matches.count id ⟨values', []⟩
      = if given.arg.id = id then min (Matches.count id ⟨values, []⟩ + 1) Frame.greatestCount
        else Matches.count id ⟨values, []⟩ := by
  by_cases hid : given.arg.id = id
  · rw [if_pos hid]
    cases given with
    | word arg reader text => cases hcount hid
    | flag arg => cases hcount hid
    | count arg =>
      cases h
      obtain rfl : arg.id = id := hid
      simp only [Matches.count, Entries.get?_insert, if_true]
  · rw [if_neg hid, Matches.count, get?_record h hid, Matches.count]

/-- **An argument that is counted has the number of times it is given**, up to the greatest
count. -/
theorem count_records {values values' : Entries Value} {gs : List Given}
    (h : gs.foldlM Given.record values = .ok values') {id : String}
    (hcount : ∀ given ∈ gs, given.arg.id = id → given.isCount = true)
    (hle : Matches.count id ⟨values, []⟩ ≤ Frame.greatestCount) :
    Matches.count id ⟨values', []⟩
      = min (Matches.count id ⟨values, []⟩ + timesGiven id gs) Frame.greatestCount := by
  induction gs generalizing values with
  | nil =>
    cases h
    exact (Nat.min_eq_left hle).symm
  | cons given gs ih =>
    obtain ⟨hgiven, hgs⟩ := List.forall_mem_cons.1 hcount
    obtain ⟨mid, hfirst, hrest⟩ := bind_eq_ok_iff.1 h
    have hmid := count_record hfirst hgiven
    have hle' : Matches.count id ⟨mid, []⟩ ≤ Frame.greatestCount := by
      rw [hmid]
      split
      · exact Nat.min_le_right _ _
      · exact hle
    rw [ih hrest hgs hle', hmid, timesGiven_cons]
    split <;> omega

/-! ## Defaults -/

/-- The value of an argument that is not given, if it has one. -/
def Arg.defaultValue? (arg : Arg) : Except Fault (Option Value) :=
  match arg.shape, arg.default with
  | .positional reader, some word => (reader.read word).map some
  | .option _ reader, some word => (reader.read word).map some
  | .flag _, word => (readBool (word.getD "false")).map some
  | .count .., _ => .ok (some (.count 0))
  | _, none => .ok none

theorem addDefault_eq (values : Entries Value) (arg : Arg) :
    Frame.addDefault values arg
      = if (Entries.get? arg.id values).isSome then .ok values
        else arg.defaultValue?.map fun value =>
          match value with
          | some value => Entries.insert arg.id value values
          | none => values := rfl

theorem get?_addDefault_of_ne {values values' : Entries Value} {arg : Arg}
    (h : Frame.addDefault values arg = .ok values') {id : String} (hid : arg.id ≠ id) :
    Entries.get? id values' = Entries.get? id values := by
  rw [addDefault_eq] at h
  split at h
  · cases h
    rfl
  · obtain ⟨value, -, rfl⟩ := map_eq_ok_iff.1 h
    cases value with
    | none => rfl
    | some value =>
      dsimp only
      rw [Entries.get?_insert]
      exact if_neg hid

/-- A default is added only where there is no value, and is the value then. -/
theorem get?_addDefault {values values' : Entries Value} {arg : Arg}
    (h : Frame.addDefault values arg = .ok values') :
    ((Entries.get? arg.id values).isSome = true ∧ values' = values)
      ∨ (Entries.get? arg.id values = none
        ∧ arg.defaultValue? = .ok (Entries.get? arg.id values')) := by
  rw [addDefault_eq] at h
  split at h
  · next hsome =>
    cases h
    exact Or.inl ⟨hsome, rfl⟩
  · next hnone =>
    have hnone := Option.not_isSome_iff_eq_none.1 hnone
    obtain ⟨value, hvalue, rfl⟩ := map_eq_ok_iff.1 h
    refine Or.inr ⟨hnone, ?_⟩
    rw [hvalue]
    cases value with
    | none => exact congrArg Except.ok hnone.symm
    | some value =>
      dsimp only
      rw [Entries.get?_insert]
      exact congrArg Except.ok (if_pos rfl).symm

theorem get?_addDefaults_of_isSome {values values' : Entries Value} {args : List Arg}
    (h : args.foldlM Frame.addDefault values = .ok values') {id : String}
    (hid : (Entries.get? id values).isSome = true) :
    Entries.get? id values' = Entries.get? id values := by
  induction args generalizing values with
  | nil =>
    cases h
    rfl
  | cons arg args ih =>
    obtain ⟨mid, hfirst, hrest⟩ := bind_eq_ok_iff.1 h
    have hmid : Entries.get? id mid = Entries.get? id values := by
      by_cases heq : arg.id = id
      · subst heq
        rcases get?_addDefault hfirst with ⟨-, rfl⟩ | ⟨hnone, -⟩
        · rfl
        · rw [hnone] at hid
          cases hid
      · exact get?_addDefault_of_ne hfirst heq
    rw [← hmid] at hid
    rw [ih hrest hid, hmid]

theorem get?_addDefaults_of_not_mem {values values' : Entries Value} {args : List Arg}
    (h : args.foldlM Frame.addDefault values = .ok values') {id : String}
    (hid : id ∉ args.map Arg.id) : Entries.get? id values' = Entries.get? id values := by
  induction args generalizing values with
  | nil =>
    cases h
    rfl
  | cons arg args ih =>
    rw [List.map_cons, List.mem_cons, not_or] at hid
    obtain ⟨mid, hfirst, hrest⟩ := bind_eq_ok_iff.1 h
    rw [ih hrest hid.2, get?_addDefault_of_ne hfirst (Ne.symm hid.1)]

/-- **An argument without a value has its default in the end.** -/
theorem defaultValue?_of_addDefaults {values values' : Entries Value} {args : List Arg}
    (h : args.foldlM Frame.addDefault values = .ok values') (hids : (args.map Arg.id).Nodup)
    {arg : Arg} (hmem : arg ∈ args) (hnone : Entries.get? arg.id values = none) :
    arg.defaultValue? = .ok (Entries.get? arg.id values') := by
  induction args generalizing values with
  | nil => cases hmem
  | cons first args ih =>
    rw [List.map_cons, List.nodup_cons] at hids
    obtain ⟨mid, hfirst, hrest⟩ := bind_eq_ok_iff.1 h
    rcases List.mem_cons.1 hmem with rfl | hmem
    · -- no later default is that of this argument
      rw [get?_addDefaults_of_not_mem hrest hids.1]
      rcases get?_addDefault hfirst with ⟨hsome, -⟩ | ⟨-, hdefault⟩
      · rw [hnone] at hsome
        cases hsome
      · exact hdefault
    · have hne : first.id ≠ arg.id := by
        intro heq
        exact hids.1 (heq ▸ List.mem_map_of_mem hmem)
      refine ih hrest hids.2 hmem ?_
      rw [get?_addDefault_of_ne hfirst hne, hnone]

/-- The default of what is counted is a count of zero, as if it was missing. -/
theorem count_addDefaults {values values' : Entries Value} {args : List Arg}
    (h : args.foldlM Frame.addDefault values = .ok values') (hids : (args.map Arg.id).Nodup)
    {arg : Arg} (hmem : arg ∈ args) (hshape : ∃ long letter, arg.shape = .count long letter) :
    Matches.count arg.id ⟨values', []⟩ = Matches.count arg.id ⟨values, []⟩ := by
  unfold Matches.count
  cases hget : Entries.get? arg.id values with
  | some value => rw [get?_addDefaults_of_isSome h (hget ▸ rfl), hget]
  | none =>
    obtain ⟨long, letter, hshape⟩ := hshape
    have hdefault := defaultValue?_of_addDefaults h hids hmem hget
    rw [Arg.defaultValue?, hshape] at hdefault
    rw [← Except.ok.inj hdefault]

/-! ## Closed commands -/

/-- The values that a command has when its words have given this. -/
structure Holds (command : Command) (gs : List Given) (values : Entries Value) : Prop where
  fits : ∀ given ∈ gs, given.Fits command
  /-- The value of an argument that is given with a word is what the word denotes. -/
  word : ∀ arg reader text, .word arg reader text ∈ gs →
    ∃ value, reader.read text = .ok value ∧ Entries.get? arg.id values = some value
  flag : ∀ arg, .flag arg ∈ gs → Entries.get? arg.id values = some (.bool true)
  count : ∀ arg ∈ command.args, (∃ long letter, arg.shape = .count long letter) →
    Matches.count arg.id ⟨values, []⟩ = min (timesGiven arg.id gs) Frame.greatestCount
  absent : ∀ arg ∈ command.args, (∀ given ∈ gs, given.arg ≠ arg) →
    arg.defaultValue? = .ok (Entries.get? arg.id values)
  required : ∀ arg ∈ command.args, arg.required = true → ∃ given ∈ gs, given.arg = arg

theorem arg_eq_of_id {command : Command} (hids : (command.args.map Arg.id).Nodup) {arg arg' : Arg}
    (h : arg ∈ command.args) (h' : arg' ∈ command.args) (hid : arg.id = arg'.id) : arg = arg' :=
  List.inj_on_of_nodup_map hids h h' hid

/-- An argument is given in one way only. -/
theorem isCount_eq_of_id {command : Command} (hids : (command.args.map Arg.id).Nodup)
    {given other : Given} (h : given.Fits command) (h' : other.Fits command)
    (hid : other.arg.id = given.arg.id) : other.isCount = given.isCount := by
  have harg : other.arg = given.arg := arg_eq_of_id hids h'.mem h.mem hid
  cases given <;> cases other <;> simp only [Given.Fits, Given.arg, Given.isCount] at * <;> grind

/-- **What a command holds in the end**, by what its words have given. -/
theorem Gives.holds {command : Command} (hids : (command.args.map Arg.id).Nodup)
    {words : List String} {gs : List Given} (h : Gives command 0 words gs) {frame : Frame}
    (hreads : (Frame.start command).Reads words frame) {hasSubcommand : Bool}
    {values : Entries Value} (hclose : frame.close hasSubcommand = .ok values) :
    Holds command gs values := by
  obtain ⟨resolved, hresolve, hdefaults, hcheck⟩ := Frame.close_ok hclose
  have hcommand : resolved.command = command :=
    (Frame.resolve_ok hresolve).1.command.trans hreads.command_eq
  rw [hcommand] at hdefaults
  have hrecords : gs.foldlM Given.record [] = .ok resolved.values := by
    have hsettled := h.settled (Frame.ready_start command) hreads
    rw [Frame.settled_of_resolve hresolve, Frame.settled_of_nothing rfl] at hsettled
    exact hsettled.symm
  have hcount : ∀ given ∈ gs, given.isCount = false →
      ∀ other ∈ gs, other.arg.id = given.arg.id → other.isCount = false := by
    intro given hgiven hno other hother hid
    rw [isCount_eq_of_id hids (h.fits given hgiven) (h.fits other hother) hid, hno]
  refine ⟨h.fits, ?_, ?_, ?_, ?_, ?_⟩
  · -- the word is read where it is recorded; from there on the value stays, past the defaults too
    intro arg reader text hmem
    obtain ⟨before, after, hrecord, hget⟩ := exists_record_of_mem hrecords hmem
      (hcount _ hmem rfl)
    dsimp only [Given.record, Given.arg] at hrecord hget
    split at hrecord
    · cases hrecord
    · obtain ⟨value, hread, rfl⟩ := map_eq_ok_iff.1 hrecord
      rw [Entries.get?_insert, if_pos rfl] at hget
      refine ⟨value, hread, ?_⟩
      rw [get?_addDefaults_of_isSome hdefaults (hget ▸ rfl), hget]
  · intro arg hmem
    obtain ⟨before, after, hrecord, hget⟩ := exists_record_of_mem hrecords hmem
      (hcount _ hmem rfl)
    dsimp only [Given.record, Given.arg] at hrecord hget
    split at hrecord
    · cases hrecord
    · cases hrecord
      rw [Entries.get?_insert, if_pos rfl] at hget
      rw [get?_addDefaults_of_isSome hdefaults (hget ▸ rfl), hget]
  · intro arg hmem hshape
    have hisCount : ∀ given ∈ gs, given.arg.id = arg.id → given.isCount = true :=
      fun given hgiven hid => (h.fits given hgiven).isCount_of_shape
        (arg_eq_of_id hids (h.fits given hgiven).mem hmem hid ▸ hshape)
    have hrecorded := count_records hrecords hisCount (Nat.zero_le _)
    rw [count_addDefaults hdefaults hids hmem hshape, hrecorded]
    exact congrArg (min · _) (Nat.zero_add _)
  · -- nothing else is recorded under this name, so the default is added
    intro arg hmem hnot
    have hnone : Entries.get? arg.id resolved.values = none := by
      have hids' : ∀ given ∈ gs, given.arg.id ≠ arg.id := by
        intro given hgiven hid
        exact hnot given hgiven (arg_eq_of_id hids (h.fits given hgiven).mem hmem hid)
      rw [get?_records hrecords hids']
      rfl
    exact defaultValue?_of_addDefaults hdefaults hids hmem hnone
  · -- the check looks at what was recorded, not at the defaults
    intro arg hmem hrequired
    have hhas := (Frame.check_ok hcheck).2 arg (hcommand ▸ hmem) hrequired
    by_contra hnot
    have hids' : ∀ given ∈ gs, given.arg.id ≠ arg.id := by
      intro given hgiven hid
      exact hnot ⟨given, hgiven, arg_eq_of_id hids (h.fits given hgiven).mem hmem hid⟩
    have hnone : Entries.get? arg.id resolved.values = none := get?_records hrecords hids'
    unfold Frame.has at hhas
    rw [hnone] at hhas
    cases hhas

/-- What is first given for an argument. -/
def firstFor? (id : String) (gs : List Given) : Option Given := gs.find? (·.arg.id = id)

/-- **What there is for an argument**: the value of the word it is given with, true for a flag, some
count, or its default. -/
theorem Holds.value_cases {command : Command} (hids : (command.args.map Arg.id).Nodup)
    {gs : List Given} {values : Entries Value} (h : Holds command gs values) {arg : Arg}
    (hmem : arg ∈ command.args) :
    (∃ reader word value, firstFor? arg.id gs = some (.word arg reader word)
        ∧ (arg.shape = .positional reader ∨ ∃ long, arg.shape = .option long reader)
        ∧ reader.read word = .ok value ∧ Entries.get? arg.id values = some value)
      ∨ (∃ long, firstFor? arg.id gs = some (.flag arg) ∧ arg.shape = .flag long
        ∧ Entries.get? arg.id values = some (.bool true))
      ∨ (∃ long letter, arg.shape = .count long letter)
      ∨ (firstFor? arg.id gs = none ∧ arg.required = false
        ∧ arg.defaultValue? = .ok (Entries.get? arg.id values)) := by
  cases hfirst : firstFor? arg.id gs with
  | some first =>
    have hin : first ∈ gs := List.mem_of_find?_eq_some hfirst
    have hsome := List.find?_some hfirst
    have hid : first.arg.id = arg.id := of_decide_eq_true hsome
    have hfits := h.fits first hin
    -- no other argument has this name
    have harg : first.arg = arg := arg_eq_of_id hids hfits.mem hmem hid
    cases first with
    | word arg' reader text =>
      cases harg
      obtain ⟨value, hread, hget⟩ := h.word _ _ _ hin
      exact Or.inl ⟨reader, text, value, rfl, hfits.2, hread, hget⟩
    | flag arg' =>
      cases harg
      obtain ⟨long, hshape⟩ := hfits.2
      exact Or.inr (Or.inl ⟨long, rfl, hshape, h.flag _ hin⟩)
    | count arg' =>
      cases harg
      exact Or.inr (Or.inr (Or.inl hfits.2))
  | none =>
    have hnot : ∀ given ∈ gs, given.arg ≠ arg := by
      intro given hin harg
      have hne := List.find?_eq_none.1 hfirst given hin
      rw [harg] at hne
      exact hne (decide_eq_true rfl)
    have hoptional : arg.required = false := by
      rw [← Bool.not_eq_true]
      intro hrequired
      obtain ⟨given, hin, harg⟩ := h.required arg hmem hrequired
      exact hnot given hin harg
    exact Or.inr (Or.inr (Or.inr ⟨rfl, hoptional, h.absent arg hmem hnot⟩))

/-- A command without subcommands reads all words itself. -/
theorem Command.exists_holds_alone {command : Command}
    (hids : (command.args.map Arg.id).Nodup) (hsub : command.subcommands = [])
    (hany : command.takesAnySubcommand = false) {words : List String} {found : Matches}
    (h : command.parse words = .ok found) :
    found.path = [] ∧ (∃ gs, Gives command 0 words gs)
      ∧ ∀ gs, Gives command 0 words gs → Holds command gs found.values := by
  cases command.accepts_of_parse h with
  | alone frame hreads hclose hpath =>
    obtain ⟨resolved, hresolve, -⟩ := Frame.close_ok hclose
    exact ⟨hpath, Frame.exists_gives (Frame.ready_start command) hreads hresolve,
      fun gs hgs => hgs.holds hids hreads hclose⟩
  | subcommand frame front back sub below hwords hreads hchooses =>
    have hfind := hchooses.find
    rw [hreads.command_eq] at hfind
    have hmem := List.mem_of_find?_eq_some hfind
    rw [Frame.start, hsub] at hmem
    cases hmem
  | anything frame front back name hwords hreads hany' =>
    rw [Frame.start, hany] at hany'
    cases hany'

/-- A command that needs a subcommand reads the words in front of its name. -/
theorem Command.exists_holds_below {command : Command}
    (hids : (command.args.map Arg.id).Nodup) (hneeds : command.needsSubcommand = true)
    (hany : command.takesAnySubcommand = false) {words : List String} {found : Matches}
    (h : command.parse words = .ok found) :
    ∃ front back sub below, words = front ++ sub.name :: back
      ∧ command.find? sub.name = some sub ∧ sub.parse back = .ok below
      ∧ found.path = (sub.name, below.values) :: below.path
      ∧ (∃ gs, Gives command 0 front gs)
      ∧ ∀ gs, Gives command 0 front gs → Holds command gs found.values := by
  cases command.accepts_of_parse h with
  | alone frame hreads hclose hpath =>
    obtain ⟨resolved, hresolve, -, hcheck⟩ := Frame.close_ok hclose
    -- the check asks for the subcommand
    have hcommand : resolved.command = command :=
      (Frame.resolve_ok hresolve).1.command.trans hreads.command_eq
    have hfalse := (Frame.check_ok hcheck).1 (hcommand ▸ hneeds)
    cases hfalse
  | subcommand frame front back sub below hwords hreads hchooses hparse hclose hpath =>
    obtain ⟨resolved, hresolve, -⟩ := Frame.close_ok hclose
    have hfind := hchooses.find
    rw [hreads.command_eq] at hfind
    exact ⟨front, back, sub, below, hwords, hfind, hparse, hpath,
      Frame.exists_gives (Frame.ready_start command) hreads hresolve,
      fun gs hgs => hgs.holds hids hreads hclose⟩
  | anything frame front back name hwords hreads hany' =>
    rw [Frame.start, hany] at hany'
    cases hany'

end Switchboard.CommandLine
