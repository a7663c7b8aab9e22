import Mathlib.Data.List.Forall2
import Mathlib.Data.List.TakeWhile
import Switchboard.Proofs.CommandLine.Subcommands

/-!
# What a command line gives

The words of one command are items: an argument by its name, with its value attached or in the word
after it, letters that are counted, a word in its place. `Gives` tells what is given by which words,
and does not speak of how they are read: there is no argument that waits for its word, and no value
that is read late.

The reader fits this description in both directions. Words that it takes do give something
(`Frame.exists_gives`), and whatever they are said to give is what it records, in order
(`Gives.settled`).
-/

namespace Switchboard.CommandLine

/-! ## Items -/

/-- An argument as a command line gives it. -/
inductive Given where
  /-- With a word and the way to read it. -/
  | word (arg : Arg) (reader : Reader) (text : String)
  | flag (arg : Arg)
  /-- Once more. -/
  | count (arg : Arg)

namespace Given

/-- The argument that is given. -/
def arg : Given → Arg
  | word arg _ _ => arg
  | flag arg => arg
  | count arg => arg

/-- Records what is given. Only what is counted may be given twice. -/
def record (values : Entries Value) : Given → Except Fault (Entries Value)
  | word arg reader text =>
    if (Entries.get? arg.id values).isSome then .error .argumentConflict
    else (reader.read text).map fun value => Entries.insert arg.id value values
  | flag arg =>
    if (Entries.get? arg.id values).isSome then .error .argumentConflict
    else .ok (Entries.insert arg.id (.bool true) values)
  | count arg =>
    let times := Matches.count arg.id ⟨values, []⟩ + 1
    .ok (Entries.insert arg.id (.count (min times Frame.greatestCount)) values)

end Given

/-- What an argument gives when it is named, with a value attached or none. -/
def Arg.given? (attached : Option String) (arg : Arg) : Option Given :=
  match arg.shape, attached with
  | .option _ reader, some text => some (.word arg reader text)
  | .flag _, none => some (.flag arg)
  | .count .., none => some (.count arg)
  | _, _ => none

/-- A word that is no value where a value is awaited: a dash and something after it. -/
def IsDashed (text : String) : Prop := ∃ c rest, text.toList = '-' :: c :: rest

/-- A word that is a name after two dashes, with a value attached to it or none. -/
structure IsLong (text name : String) (attached : Option String) : Prop where
  toList : text.toList
    = '-' :: '-' :: (name.toList ++ (attached.map fun value => '=' :: value.toList).getD [])
  name : '=' ∉ name.toList
  ne_dashes : text ≠ "--"

/-- A word that chooses no subcommand. -/
structure Command.IsFree (command : Command) (text : String) : Prop where
  find : command.find? text = none
  help : command.isHelpWord text = false

/-- Words that are one item of a command line, with what they give. The numbers are how many
positional arguments were begun before and after it. -/
inductive Item (command : Command) (n : Nat) : List String → List Given → Nat → Prop where
  /-- A name, with its value attached if it has one. -/
  | named {text name : String} {attached : Option String} {arg : Arg} {given : Given} :
      command.IsFree text → IsLong text name attached →
      command.args.find? (·.shape.long? = some name) = some arg →
      arg.given? attached = some given → Item command n [text] [given] n
  /-- A name, and its value in the word after it. -/
  | valued {text name long value : String} {arg : Arg} {reader : Reader} :
      command.IsFree text → IsLong text name none →
      command.args.find? (·.shape.long? = some name) = some arg →
      arg.shape = .option long reader → ¬ IsDashed value →
      Item command n [text, value] [.word arg reader value] n
  /-- Letters after one dash. -/
  | letters {text : String} {c : Char} {rest : List Char} {args : List Arg} :
      command.IsFree text → text.toList = '-' :: c :: rest → c ≠ '-' →
      List.Forall₂ (fun letter arg =>
        command.args.find? (·.shape.letter? = some letter) = some arg) (c :: rest) args →
      Item command n [text] (args.map .count) n
  /-- A word in its place. -/
  | placed {text : String} {arg : Arg} {reader : Reader} :
      command.IsFree text → ¬ IsDashed text →
      command.positionals[n]? = some (arg, reader) →
      Item command n [text] [.word arg reader text] (n + 1)

/-- Words that are all in their places, with what they give. -/
inductive Fills (command : Command) : Nat → List String → List Given → Prop where
  | nil {n : Nat} : Fills command n [] []
  | cons {n : Nat} {text : String} {words : List String} {arg : Arg} {reader : Reader}
      {gs : List Given} :
      command.positionals[n]? = some (arg, reader) → Fills command (n + 1) words gs →
      Fills command n (text :: words) (.word arg reader text :: gs)

/-- The words of a command, with what they give. After two dashes all words are in their places. -/
inductive Gives (command : Command) : Nat → List String → List Given → Prop where
  | nil {n : Nat} : Gives command n [] []
  | item {n n' : Nat} {front words : List String} {gs gs' : List Given} :
      Item command n front gs n' → Gives command n' words gs' →
      Gives command n (front ++ words) (gs ++ gs')
  | dashes {n : Nat} {words : List String} {gs : List Given} :
      command.IsFree "--" → Fills command n words gs → Gives command n ("--" :: words) gs

/-! ### Words by their form -/

theorem not_isDashed_of_head? {text : String} (h : text.toList.head? ≠ some '-') :
    ¬ IsDashed text := by
  rintro ⟨c, rest, heq⟩
  rw [heq] at h
  exact h rfl

/-- Without subcommands every word is free. -/
theorem Command.isFree_of_subcommands_nil {command : Command} (h : command.subcommands = [])
    (text : String) : command.IsFree text where
  find := by rw [Command.find?, h, List.find?_nil]
  help := by rw [Command.isHelpWord, h, List.isEmpty_nil, Bool.not_true, Bool.and_false]

/-- A word with a dash is free where no subcommand has a name with a dash. -/
theorem Command.isFree_of_dash {command : Command}
    (h : ∀ sub ∈ command.subcommands, sub.name.toList.head? ≠ some '-') {text : String}
    (htext : text.toList.head? = some '-') : command.IsFree text where
  find := by
    refine List.find?_eq_none.2 fun sub hsub hname => h sub hsub ?_
    rw [of_decide_eq_true hname]
    exact htext
  help := by
    have hne : text ≠ "help" := by
      rintro rfl
      exact absurd htext (by decide)
    unfold isHelpWord
    rw [decide_eq_false hne, Bool.false_and]

/-- A name with a value attached. -/
theorem isLong_attached {front name : String}
    (hfront : front.toList = '-' :: '-' :: (name.toList ++ ['='])) (hname : '=' ∉ name.toList)
    (value : String) : IsLong (front ++ value) name (some value) where
  toList := by
    rw [String.toList_append, hfront]
    simp
  name := hname
  ne_dashes := by
    intro h
    have hlength := congrArg (fun text => text.toList.length) h
    simp only [String.toList_append, hfront, List.length_append, List.length_cons] at hlength
    have hdashes : "--".toList.length = 2 := by decide
    omega

/-- A word that begins with two dashes is a name, unless there is nothing after them. -/
theorem exists_isLong {text : String} {rest : List Char} (h : text.toList = '-' :: '-' :: rest)
    (hrest : rest ≠ []) : ∃ name attached, IsLong text name attached := by
  have hne : text ≠ "--" := by
    rintro rfl
    exact hrest (List.cons.inj (List.cons.inj h).2).2.symm
  have hname : '=' ∉ rest.takeWhile (· != '=') := by
    intro hmem
    have := List.mem_takeWhile_imp hmem
    simp at this
  have hsplit := List.takeWhile_append_dropWhile (p := (· != '=')) (l := rest)
  cases hdrop : rest.dropWhile (· != '=') with
  | nil =>
    rw [hdrop, List.append_nil] at hsplit
    refine ⟨String.ofList (rest.takeWhile (· != '=')), none, ⟨?_, ?_, hne⟩⟩
    · simp [h, hsplit]
    · rwa [String.toList_ofList]
  | cons c value =>
    -- what stops the name is an equals sign
    have hhead : c = '=' := by
      have hstop := List.head?_dropWhile_not (· != '=') rest
      rw [hdrop] at hstop
      simpa using hstop
    subst hhead
    rw [hdrop] at hsplit
    refine ⟨String.ofList (rest.takeWhile (· != '=')), some (String.ofList value), ⟨?_, ?_, hne⟩⟩
    · simp [h, hsplit]
    · rwa [String.toList_ofList]

/-- **The forms of a word.** -/
theorem form_cases (text : String) :
    text = "--" ∨ (∃ name attached, IsLong text name attached)
      ∨ (∃ c rest, text.toList = '-' :: c :: rest ∧ c ≠ '-') ∨ ¬ IsDashed text := by
  by_cases hdashed : IsDashed text
  · obtain ⟨c, rest, h⟩ := hdashed
    by_cases hc : c = '-'
    · subst hc
      by_cases hrest : rest = []
      · subst hrest
        exact Or.inl (String.toList_injective h)
      · exact Or.inr (Or.inl (exists_isLong h hrest))
    · exact Or.inr (Or.inr (Or.inl ⟨c, rest, h, hc⟩))
  · exact Or.inr (Or.inr (Or.inr hdashed))

namespace Frame

theorem word_dashes (frame : Frame) (outer : List Frame) :
    frame.word outer "--" = .ok (.reading { frame with trailing := true } outer) := rfl

theorem word_of_two_dashes {text : String} {rest : List Char}
    (h : text.toList = '-' :: '-' :: rest) (hrest : rest ≠ []) (frame : Frame)
    (outer : List Frame) :
    frame.word outer text
      = (frame.long (String.ofList (rest.takeWhile (· != '=')))
          (match rest.dropWhile (· != '=') with
            | _ :: value => some (String.ofList value)
            | [] => none)).map (.reading · outer) := by
  obtain ⟨c, rest', rfl⟩ := List.exists_cons_of_ne_nil hrest
  unfold word
  rw [h]
  rfl

theorem word_long {text name : String} {attached : Option String} (h : IsLong text name attached)
    (frame : Frame) (outer : List Frame) :
    frame.word outer text = (frame.long name attached).map (.reading · outer) := by
  have hall : ∀ c ∈ name.toList, (c != '=') = true := by
    intro c hmem
    rw [bne_iff_ne]
    rintro rfl
    exact h.name hmem
  have hrest : name.toList ++ (attached.map fun value => '=' :: value.toList).getD [] ≠ [] := by
    intro hnil
    have htext := h.toList
    rw [hnil] at htext
    exact h.ne_dashes (String.toList_injective htext)
  rw [word_of_two_dashes h.toList hrest]
  cases attached with
  | none =>
    rw [Option.map_none, Option.getD_none, List.append_nil, List.takeWhile_eq_self_iff.2 hall,
      List.dropWhile_eq_nil_iff.2 hall, String.ofList_toList]
  | some value =>
    rw [Option.map_some, Option.getD_some, List.takeWhile_append_of_pos hall,
      List.dropWhile_append_of_pos hall]
    simp

theorem word_letters {text : String} {c : Char} {rest : List Char}
    (h : text.toList = '-' :: c :: rest) (hc : c ≠ '-') (frame : Frame) (outer : List Frame) :
    frame.word outer text = ((c :: rest).foldlM letter frame).map (.reading · outer) := by
  unfold word
  rw [h]
  split
  · next heq => exact absurd (List.cons.inj (List.cons.inj heq).2).1 hc
  · next heq => exact absurd (List.cons.inj (List.cons.inj heq).2).1 hc
  · next heq =>
    cases heq
    rfl
  · next hno => exact absurd rfl (hno c rest)

/-- A word without a dash is the value that is awaited, or stands in its place. -/
theorem word_plain {text : String} (h : ¬ IsDashed text) (frame : Frame) (outer : List Frame) :
    frame.word outer text
      = match frame.pending with
        | .awaiting arg reader =>
          .ok (.reading { frame with pending := .gathered arg reader text } outer)
        | _ => frame.positional outer text := by
  unfold word
  split
  · next heq => exact absurd ⟨_, _, heq⟩ h
  · next heq => exact absurd ⟨_, _, heq⟩ h
  · next heq => exact absurd ⟨_, _, heq⟩ h
  · rfl

/-! ## Frames between items -/

/-- A frame between two items. -/
structure Ready (command : Command) (n : Nat) (frame : Frame) : Prop where
  command : frame.command = command
  begun : frame.begun = n
  trailing : frame.trailing = false
  awaiting : frame.isAwaiting = false

theorem ready_start (command : Command) : Ready command 0 (start command) := ⟨rfl, rfl, rfl, rfl⟩

/-- The values of a frame once the argument begun last is read. -/
def settled (frame : Frame) : Except Fault (Entries Value) := frame.resolve.map (·.values)

theorem settled_of_nothing {frame : Frame} (h : frame.pending = .nothing) :
    frame.settled = .ok frame.values := by
  unfold settled resolve
  rw [h]
  rfl

theorem settled_of_resolve {frame resolved : Frame} (h : frame.resolve = .ok resolved) :
    frame.settled = .ok resolved.values := by
  unfold settled
  rw [h]
  rfl

theorem give_map_values (frame : Frame) (arg : Arg) (reader : Reader) (text : String) :
    (frame.give arg reader text).map (·.values)
      = Given.record frame.values (.word arg reader text) := by
  unfold give has
  dsimp only [Given.record]
  split
  · rfl
  · cases reader.read text <;> rfl

theorem settled_of_gathered {frame : Frame} {arg : Arg} {reader : Reader} {text : String}
    (h : frame.pending = .gathered arg reader text) :
    frame.settled = Given.record frame.values (.word arg reader text) := by
  unfold settled resolve
  rw [h]
  exact give_map_values { frame with pending := .nothing } arg reader text

/-- What is settled goes by what was begun and what was recorded. -/
theorem settled_congr {frame frame' : Frame} (hpending : frame'.pending = frame.pending)
    (hvalues : frame'.values = frame.values) : frame'.settled = frame.settled := by
  cases h : frame.pending with
  | nothing =>
    rw [settled_of_nothing h, settled_of_nothing (hpending.trans h), hvalues]
  | awaiting arg reader =>
    unfold settled resolve
    rw [hpending, h]
  | gathered arg reader text =>
    rw [settled_of_gathered h, settled_of_gathered (hpending.trans h), hvalues]

theorem Ready.of_pending {command : Command} {n : Nat} {frame next : Frame}
    (h : frame.Ready command n) (hplace : frame.SamePlace next)
    (hpending : next.pending = .nothing) : next.Ready command n where
  command := hplace.command.trans h.command
  begun := hplace.begun.trans h.begun
  trailing := hplace.trailing.trans h.trailing
  awaiting := by unfold isAwaiting; rw [hpending]

/-- An argument that needs nothing more is recorded as soon as it is named. -/
theorem begin_of_given? {frame next : Frame} {arg : Arg} {attached : Option String} {given : Given}
    (hgiven : arg.given? attached = some given) (h : frame.begin arg attached = .ok next) :
    next.pending = .nothing
      ∧ next.settled = frame.settled >>= fun values => given.record values := by
  unfold Arg.given? at hgiven
  unfold begin at h
  split at hgiven
  · next long reader text hshape =>
    cases hgiven
    simp only [hshape] at h
    obtain ⟨resolved, hresolve, hgive⟩ := bind_eq_ok_iff.1 h
    have hnothing : next.pending = .nothing :=
      (samePlace_give hgive).2.trans (resolve_ok hresolve).2
    have hrecord := resolved.give_map_values arg reader text
    rw [hgive] at hrecord
    rw [settled_of_nothing hnothing, settled_of_resolve hresolve]
    exact ⟨hnothing, hrecord⟩
  · next long hshape =>
    cases hgiven
    simp only [hshape] at h
    obtain ⟨resolved, hresolve, hput⟩ := bind_eq_ok_iff.1 h
    split at hput
    · cases hput
    · next hhas =>
      cases hput
      have hnothing := (resolve_ok hresolve).2
      have hput : (resolved.put arg (.bool true)).pending = .nothing := hnothing
      rw [settled_of_nothing hput, settled_of_resolve hresolve]
      exact ⟨hput, (if_neg hhas).symm⟩
  · next long letter hshape =>
    cases hgiven
    simp only [hshape] at h
    obtain ⟨resolved, hresolve, rfl⟩ := map_eq_ok_iff.1 h
    have hput : (resolved.count arg).pending = .nothing := (resolve_ok hresolve).2
    rw [settled_of_nothing hput, settled_of_resolve hresolve]
    exact ⟨hput, rfl⟩
  · cases hgiven

theorem given?_of_letter {arg : Arg} {c : Char} (h : arg.shape.letter? = some c) :
    arg.given? none = some (.count arg) := by
  unfold Shape.letter? at h
  unfold Arg.given?
  split at h
  · next hshape => rw [hshape]
  · cases h

theorem letter?_of_find? {command : Command} {arg : Arg} {c : Char}
    (h : command.args.find? (·.shape.letter? = some c) = some arg) :
    arg.shape.letter? = some c := by
  have hletter := List.find?_some h
  exact of_decide_eq_true hletter

/-- Letters are recorded one after the other. -/
theorem letters_settled {command : Command} {n : Nat} {letters : List Char} {args : List Arg}
    (hargs : List.Forall₂ (fun letter arg =>
      command.args.find? (·.shape.letter? = some letter) = some arg) letters args)
    {frame next : Frame} (hready : frame.Ready command n)
    (h : letters.foldlM letter frame = .ok next) :
    next.Ready command n
      ∧ next.settled = frame.settled >>= fun values => (args.map Given.count).foldlM Given.record
          values := by
  induction hargs generalizing frame with
  | nil =>
    cases h
    exact ⟨hready, (bind_pure _).symm⟩
  | @cons c arg letters args hfind _ ih =>
    obtain ⟨mid, hletter, hrest⟩ := bind_eq_ok_iff.1 h
    obtain ⟨arg', hfind', hbegin⟩ := letter_ok hletter
    rw [hready.command, hfind] at hfind'
    cases hfind'
    have hgiven := given?_of_letter (letter?_of_find? hfind)
    obtain ⟨hpending, hsettled⟩ := begin_of_given? hgiven hbegin
    have hmid := hready.of_pending (samePlace_begin hbegin) hpending
    obtain ⟨hnext, hall⟩ := ih hmid hrest
    refine ⟨hnext, ?_⟩
    rw [hall, hsettled, bind_assoc, List.map_cons]
    rfl

theorem exists_letters {frame next : Frame} {letters : List Char}
    (h : letters.foldlM letter frame = .ok next) :
    ∃ args, List.Forall₂ (fun letter arg =>
      frame.command.args.find? (·.shape.letter? = some letter) = some arg) letters args := by
  induction letters generalizing frame with
  | nil => exact ⟨[], .nil⟩
  | cons c letters ih =>
    obtain ⟨mid, hletter, hrest⟩ := bind_eq_ok_iff.1 h
    obtain ⟨arg, hfind, hbegin⟩ := letter_ok hletter
    obtain ⟨args, hargs⟩ := ih hrest
    rw [(samePlace_begin hbegin).command] at hargs
    exact ⟨arg :: args, .cons hfind hargs⟩

/-- A word that a frame between two items takes for itself chooses no subcommand. -/
theorem Ready.word_of_takes {command : Command} {n : Nat} {frame next : Frame} {text : String}
    (hready : frame.Ready command n) (h : frame.Takes text next) :
    command.IsFree text ∧ frame.word [] text = .ok (.reading next []) := by
  have hstep := h []
  unfold step at hstep
  rw [hready.trailing, hready.awaiting, hready.command, if_neg Bool.false_ne_true,
    if_neg Bool.false_ne_true] at hstep
  split at hstep
  · cases hstep
  · next hfind =>
    split at hstep
    · cases hstep
    · next hhelp => exact ⟨⟨hfind, Bool.eq_false_iff.2 hhelp⟩, hstep⟩

/-- A frame that awaits a value takes it from any word without a dash. -/
theorem word_of_takes_awaiting {frame next : Frame} {text : String} (h : frame.Takes text next)
    (htrailing : frame.trailing = false) (hawaiting : frame.isAwaiting = true) :
    frame.word [] text = .ok (.reading next []) := by
  have hstep := h []
  unfold step at hstep
  rwa [htrailing, if_neg Bool.false_ne_true, if_pos hawaiting] at hstep

theorem resolve_of_awaiting {frame : Frame} (h : frame.isAwaiting = true) :
    frame.resolve = .error .invalidValue := by
  unfold isAwaiting at h
  unfold resolve
  split at h
  · next hpending => rw [hpending]
  · cases h

theorem begin_ne_ok_of_awaiting {frame : Frame} (h : frame.isAwaiting = true) (arg : Arg)
    (attached : Option String) (next : Frame) : frame.begin arg attached ≠ .ok next := by
  intro hbegin
  unfold begin at hbegin
  rw [resolve_of_awaiting h] at hbegin
  split at hbegin <;> cases hbegin

/-- Where a value is awaited, no word with a dash is taken but the two dashes alone. -/
theorem not_isDashed_of_takes_awaiting {frame next : Frame} {text : String}
    (h : frame.Takes text next) (htrailing : frame.trailing = false)
    (hawaiting : frame.isAwaiting = true) : text = "--" ∨ ¬ IsDashed text := by
  have hword := word_of_takes_awaiting h htrailing hawaiting
  rcases form_cases text with rfl | ⟨name, attached, hlong⟩ | ⟨c, rest, hletters, hc⟩ | hplain
  · exact Or.inl rfl
  · rw [word_long hlong] at hword
    obtain ⟨frame', hlong, -⟩ := map_eq_ok_iff.1 hword
    obtain ⟨arg, -, hbegin⟩ := long_ok hlong
    exact absurd hbegin (begin_ne_ok_of_awaiting hawaiting arg attached frame')
  · rw [word_letters hletters hc] at hword
    obtain ⟨frame', hall, -⟩ := map_eq_ok_iff.1 hword
    obtain ⟨mid, hletter, -⟩ := bind_eq_ok_iff.1 hall
    obtain ⟨arg, -, hbegin⟩ := letter_ok hletter
    exact absurd hbegin (begin_ne_ok_of_awaiting hawaiting arg none mid)
  · exact Or.inr hplain

/-- After two dashes a frame takes words in their places only. -/
theorem takes_trailing {frame next : Frame} {text : String} (h : frame.Takes text next)
    (htrailing : frame.trailing = true) :
    ∃ arg reader resolved, frame.command.positionals[frame.begun]? = some (arg, reader)
      ∧ frame.resolve = .ok resolved
      ∧ next = { resolved with
          pending := .gathered arg reader text, begun := resolved.begun + 1 } := by
  have hstep := h []
  unfold step at hstep
  rw [if_pos htrailing] at hstep
  rcases positional_ok hstep with ⟨arg, reader, resolved, hat, hresolve, hs⟩ | ⟨-, hs⟩
  · exact ⟨arg, reader, resolved, hat, hresolve, (State.reading.inj hs).1⟩
  · cases hs

end Frame

/-! ## Reading items -/

theorem Frame.reads_append_iff {frame frame' : Frame} {front back : List String} :
    frame.Reads (front ++ back) frame' ↔ ∃ mid, frame.Reads front mid ∧ mid.Reads back frame' := by
  induction front generalizing frame with
  | nil =>
    refine ⟨fun h => ⟨frame, .nil, h⟩, ?_⟩
    rintro ⟨mid, hnil, h⟩
    cases hnil
    exact h
  | cons word front ih =>
    constructor
    · intro h
      cases h with
      | cons htakes hrest =>
        obtain ⟨mid, hfront, hback⟩ := ih.1 hrest
        exact ⟨mid, .cons htakes hfront, hback⟩
    · rintro ⟨mid, hfront, hback⟩
      cases hfront with
      | cons htakes hrest => exact .cons htakes (ih.2 ⟨mid, hrest, hback⟩)

theorem Frame.reads_singleton {frame frame' : Frame} {word : String}
    (h : frame.Reads [word] frame') : frame.Takes word frame' := by
  cases h with
  | cons htakes hrest =>
    cases hrest
    exact htakes

open Switchboard.CommandLine.Frame

/-- A word in its place is recorded when the next argument is begun. -/
theorem settled_gathered {frame resolved : Frame} (hresolve : frame.resolve = .ok resolved)
    (arg : Arg) (reader : Reader) (text : String) (n : Nat) :
    settled { resolved with pending := .gathered arg reader text, begun := n }
      = frame.settled >>= fun values => (Given.word arg reader text).record values := by
  rw [settled_of_gathered rfl, settled_of_resolve hresolve]
  rfl

theorem foldlM_record_singleton (given : Given) :
    (fun values => [given].foldlM Given.record values) = fun values => given.record values :=
  funext fun _ => bind_pure _

/-- **Reading an item records what it gives**, up to the value that is read late. -/
theorem Item.settled {command : Command} {n n' : Nat} {words : List String} {gs : List Given}
    (h : Item command n words gs n') {frame next : Frame} (hready : frame.Ready command n)
    (hreads : frame.Reads words next) :
    next.Ready command n'
      ∧ next.settled = frame.settled >>= fun values => gs.foldlM Given.record values := by
  cases h with
  | @named text name attached arg given hfree hlong hfind hgiven =>
    have hword := (hready.word_of_takes (reads_singleton hreads)).2
    rw [word_long hlong] at hword
    obtain ⟨next', hlong', hnext⟩ := map_eq_ok_iff.1 hword
    cases hnext
    obtain ⟨arg', hfind', hbegin⟩ := long_ok hlong'
    rw [hready.command, hfind] at hfind'
    cases hfind'
    obtain ⟨hpending, hsettled⟩ := begin_of_given? hgiven hbegin
    rw [foldlM_record_singleton]
    exact ⟨hready.of_pending (samePlace_begin hbegin) hpending, hsettled⟩
  | @valued text name long value arg reader hfree hlong hfind hshape hvalue =>
    obtain ⟨mid, hfirst, hsecond⟩ : ∃ mid, frame.Reads [text] mid ∧ mid.Reads [value] next :=
      reads_append_iff.1 hreads
    have hword := (hready.word_of_takes (reads_singleton hfirst)).2
    rw [word_long hlong] at hword
    obtain ⟨mid', hlong', hmid⟩ := map_eq_ok_iff.1 hword
    cases hmid
    obtain ⟨arg', hfind', hbegin⟩ := long_ok hlong'
    rw [hready.command, hfind] at hfind'
    cases hfind'
    unfold Frame.begin at hbegin
    simp only [hshape] at hbegin
    obtain ⟨resolved, hresolve, rfl⟩ := map_eq_ok_iff.1 hbegin
    have hplace := (resolve_ok hresolve).1
    -- the name waits, and the next word is its value
    have hword' := word_of_takes_awaiting (reads_singleton hsecond)
      (hplace.trailing.trans hready.trailing) rfl
    rw [word_plain hvalue] at hword'
    cases hword'
    rw [foldlM_record_singleton]
    refine ⟨⟨hplace.command.trans hready.command, hplace.begun.trans hready.begun,
      hplace.trailing.trans hready.trailing, rfl⟩, ?_⟩
    exact settled_gathered hresolve arg reader value resolved.begun
  | @letters text c rest args hfree htext hc hargs =>
    have hword := (hready.word_of_takes (reads_singleton hreads)).2
    rw [word_letters htext hc] at hword
    obtain ⟨next', hletters, hnext⟩ := map_eq_ok_iff.1 hword
    cases hnext
    exact letters_settled hargs hready hletters
  | @placed text arg reader hfree hdashed hat =>
    have hword := (hready.word_of_takes (reads_singleton hreads)).2
    rw [word_plain hdashed] at hword
    have hpositional : frame.positional [] text = .ok (.reading next []) := by
      have hawaiting := hready.awaiting
      unfold isAwaiting at hawaiting
      split at hword
      · next hpending =>
        rw [hpending] at hawaiting
        cases hawaiting
      · exact hword
    rcases positional_ok hpositional with ⟨arg', reader', resolved, hat', hresolve, hs⟩ | ⟨-, hs⟩
    · rw [hready.command, hready.begun, hat] at hat'
      cases hat'
      cases hs
      have hplace := (resolve_ok hresolve).1
      rw [foldlM_record_singleton]
      refine ⟨⟨hplace.command.trans hready.command, ?_, hplace.trailing.trans hready.trailing,
        rfl⟩, ?_⟩
      · exact congrArg (· + 1) (hplace.begun.trans hready.begun)
      · exact settled_gathered hresolve arg reader text _
    · cases hs

theorem Fills.settled {command : Command} {n : Nat} {words : List String} {gs : List Given}
    (h : Fills command n words gs) {frame next : Frame} (hreads : frame.Reads words next)
    (hcommand : frame.command = command) (hbegun : frame.begun = n)
    (htrailing : frame.trailing = true) :
    next.settled = frame.settled >>= fun values => gs.foldlM Given.record values := by
  induction h generalizing frame with
  | nil =>
    cases hreads
    exact (bind_pure _).symm
  | @cons n text words arg reader gs hat _ ih =>
    cases hreads with
    | cons htakes hrest =>
      obtain ⟨arg', reader', resolved, hat', hresolve, rfl⟩ := takes_trailing htakes htrailing
      rw [hcommand, hbegun, hat] at hat'
      cases hat'
      have hplace := (resolve_ok hresolve).1
      rw [ih hrest (hplace.command.trans hcommand)
        (congrArg (· + 1) (hplace.begun.trans hbegun)) (hplace.trailing.trans htrailing),
        settled_gathered hresolve, bind_assoc]
      rfl

/-- **Words that are read record what they give**, in order. -/
theorem Gives.settled {command : Command} {n : Nat} {words : List String} {gs : List Given}
    (h : Gives command n words gs) {frame next : Frame} (hready : frame.Ready command n)
    (hreads : frame.Reads words next) :
    next.settled = frame.settled >>= fun values => gs.foldlM Given.record values := by
  induction h generalizing frame with
  | nil =>
    cases hreads
    exact (bind_pure _).symm
  | item hitem _ ih =>
    obtain ⟨mid, hfront, hback⟩ := reads_append_iff.1 hreads
    obtain ⟨hmid, hsettled⟩ := hitem.settled hready hfront
    rw [ih hmid hback, hsettled, bind_assoc]
    refine congrArg _ (funext fun values => ?_)
    rw [List.foldlM_append]
  | dashes hfree hfills =>
    cases hreads with
    | cons htakes hrest =>
      have hword := (hready.word_of_takes htakes).2
      rw [word_dashes] at hword
      cases hword
      have hall := hfills.settled hrest hready.command hready.begun rfl
      -- the two dashes begin nothing
      have hsame : Frame.settled { frame with trailing := true } = frame.settled :=
        settled_congr rfl rfl
      rw [hall, hsame]

/-! ## Everything that is read gives something -/

theorem Frame.exists_fills {frame next : Frame} {words : List String}
    (h : frame.Reads words next) (htrailing : frame.trailing = true) :
    ∃ gs, Fills frame.command frame.begun words gs := by
  induction words generalizing frame with
  | nil => exact ⟨[], .nil⟩
  | cons text words ih =>
    cases h with
    | cons htakes hrest =>
      obtain ⟨arg, reader, resolved, hat, hresolve, rfl⟩ := takes_trailing htakes htrailing
      have hplace := (resolve_ok hresolve).1
      obtain ⟨gs, hgs⟩ := ih hrest (hplace.trailing.trans htrailing)
      dsimp only at hgs
      rw [hplace.command, hplace.begun] at hgs
      exact ⟨_, .cons hat hgs⟩

/-- A value that is awaited must come. -/
theorem Frame.resolve_ne_ok_of_awaiting {frame next resolved : Frame} {words : List String}
    (h : frame.Reads words next) (htrailing : frame.trailing = true)
    (hawaiting : frame.isAwaiting = true) : next.resolve ≠ .ok resolved := by
  cases h with
  | nil =>
    rw [resolve_of_awaiting hawaiting]
    exact fun heq => by cases heq
  | cons htakes _ =>
    obtain ⟨arg, reader, resolved', -, hresolve, -⟩ := takes_trailing htakes htrailing
    rw [resolve_of_awaiting hawaiting] at hresolve
    cases hresolve

/-- **What is read gives something.** -/
theorem Frame.exists_gives {command : Command} {n : Nat} {words : List String}
    {frame next resolved : Frame} (hready : frame.Ready command n) (h : frame.Reads words next)
    (hresolve : next.resolve = .ok resolved) : ∃ gs, Gives command n words gs := by
  -- an item takes one word or two, so the induction is on the length
  induction hlength : words.length using Nat.strongRecOn generalizing n words frame with
  | ind length ih =>
    subst hlength
    cases h with
    | nil => exact ⟨[], .nil⟩
    | @cons _ mid _ text words htakes hrest =>
      obtain ⟨hfree, hword⟩ := hready.word_of_takes htakes
      -- the rest gives something as soon as the item is over
      have hcons : ∀ {n' : Nat} {gs : List Given}, Item command n [text] gs n' →
          mid.Ready command n' → ∃ gs', Gives command n (text :: words) gs' := by
        intro n' gs hitem hmid
        obtain ⟨gs', hgs'⟩ := ih words.length (Nat.lt_succ_self _) hmid hrest rfl
        exact ⟨gs ++ gs', .item hitem hgs'⟩
      rcases form_cases text with rfl | ⟨name, attached, hlong⟩ | ⟨c, rest, htext, hc⟩ | hplain
      · rw [word_dashes] at hword
        cases hword
        obtain ⟨gs, hgs⟩ := exists_fills hrest rfl
        dsimp only at hgs
        rw [hready.command, hready.begun] at hgs
        exact ⟨gs, .dashes hfree hgs⟩
      · rw [word_long hlong] at hword
        obtain ⟨mid', hlong', hmid⟩ := map_eq_ok_iff.1 hword
        cases hmid
        obtain ⟨arg, hfind, hbegin⟩ := long_ok hlong'
        rw [hready.command] at hfind
        have hplace := samePlace_begin hbegin
        cases hgiven : arg.given? attached with
        | some given =>
          have hpending := (begin_of_given? hgiven hbegin).1
          exact hcons (.named hfree hlong hfind hgiven) (hready.of_pending hplace hpending)
        | none =>
          -- an option without its value waits for the next word
          unfold Frame.begin at hbegin
          unfold Arg.given? at hgiven
          split at hbegin
          · cases hbegin
          · next hshape =>
            rw [hshape] at hgiven
            cases hgiven
          · next long reader hshape =>
            obtain ⟨resolved', hresolve', rfl⟩ := map_eq_ok_iff.1 hbegin
            have htrailing := hplace.trailing.trans hready.trailing
            cases hrest with
            | nil =>
              rw [resolve_of_awaiting rfl] at hresolve
              cases hresolve
            | @cons _ after _ value words htakes' hrest' =>
              have hword' := word_of_takes_awaiting htakes' htrailing rfl
              rcases not_isDashed_of_takes_awaiting htakes' htrailing rfl with rfl | hvalue
              · rw [word_dashes] at hword'
                cases hword'
                exact absurd hresolve (resolve_ne_ok_of_awaiting hrest' rfl rfl)
              · have hitem : Item command n [text, value] [.word arg reader value] n :=
                  .valued hfree hlong hfind hshape hvalue
                have hafter := (hitem.settled hready
                  (.cons htakes (.cons htakes' .nil))).1
                have hshorter : words.length < (text :: value :: words).length := by
                  simp only [List.length_cons]
                  omega
                obtain ⟨gs, hgs⟩ := ih words.length hshorter hafter hrest' rfl
                exact ⟨_, .item hitem hgs⟩
          · next hshape =>
            rw [hshape] at hgiven
            cases hgiven
          · next hshape =>
            rw [hshape] at hgiven
            cases hgiven
          · cases hbegin
      · have hletters := hword
        rw [word_letters htext hc] at hletters
        obtain ⟨mid', hletters', hmid⟩ := map_eq_ok_iff.1 hletters
        cases hmid
        obtain ⟨args, hargs⟩ := exists_letters hletters'
        rw [hready.command] at hargs
        exact hcons (.letters hfree htext hc hargs) (letters_settled hargs hready hletters').1
      · -- the frame awaits nothing, so the word stands in its place
        have hpositional := hword
        rw [word_plain hplain] at hpositional
        have hawaiting := hready.awaiting
        unfold isAwaiting at hawaiting
        split at hpositional
        · next hpending =>
          rw [hpending] at hawaiting
          cases hawaiting
        · rcases positional_ok hpositional with ⟨arg, reader, _, hat, -, -⟩ | ⟨-, hs⟩
          · rw [hready.command, hready.begun] at hat
            have hitem : Item command n [text] [.word arg reader text] (n + 1) :=
              .placed hfree hplain hat
            exact hcons hitem (hitem.settled hready (.cons htakes .nil)).1
          · cases hs

end Switchboard.CommandLine
