import Switchboard.Proofs.CommandLine.Values

/-!
# The words in front of a subcommand

The name of a subcommand may also be the value of an option, so where the words of a command end
cannot be told by looking for a name. It can be told by what the words give. Where a command line is
accepted and the words in front of a name give something, these are the words that the command reads
itself (`Gives.exists_reads`), and the name is the subcommand that is chosen
(`Command.holds_of_front`).
-/

namespace Switchboard.CommandLine

variable {frame : Frame} {word : String} {words rest : List String} {found : Matches}

namespace Frame

/-- The first word of an accepted command line is the command's own, or the name of a subcommand
that accepts all the others. -/
theorem Accepts.cons_cases (h : frame.Accepts (word :: words) found)
    (hany : frame.command.takesAnySubcommand = false) :
    (∃ next, frame.Takes word next ∧ next.Accepts words found)
      ∨ ∃ sub below, frame.Chooses word sub ∧ sub.parse words = .ok below
        ∧ frame.close true = .ok found.values
        ∧ found.path = (sub.name, below.values) :: below.path := by
  cases h with
  | alone frame' hreads hclose hpath =>
    cases hreads with
    | cons htakes hrest => exact Or.inl ⟨_, htakes, .alone frame' hrest hclose hpath⟩
  | subcommand frame' front back sub below hwords hreads hchooses hparse hclose hpath =>
    cases hreads with
    | nil =>
      obtain ⟨rfl, rfl⟩ := List.cons.inj hwords
      exact Or.inr ⟨sub, below, hchooses, hparse, hclose, hpath⟩
    | cons htakes hrest =>
      obtain ⟨rfl, rfl⟩ := List.cons.inj hwords
      exact Or.inl ⟨_, htakes,
        .subcommand frame' _ back sub below rfl hrest hchooses hparse hclose hpath⟩
  | anything frame' front back name hwords hreads hany' =>
    rw [hany] at hany'
    cases hany'

/-- A word that chooses no subcommand is the command's own. -/
theorem Accepts.exists_takes (h : frame.Accepts (word :: words) found)
    (hany : frame.command.takesAnySubcommand = false) (hnot : ∀ sub, ¬ frame.Chooses word sub) :
    ∃ next, frame.Takes word next ∧ next.command = frame.command
      ∧ next.Accepts words found := by
  rcases h.cons_cases hany with ⟨next, htakes, hnext⟩ | ⟨sub, below, hchooses, -⟩
  · have hreads : frame.Reads [word] next := .cons htakes .nil
    exact ⟨next, htakes, hreads.command_eq, hnext⟩
  · exact absurd hchooses (hnot sub)

/-- After two dashes all words are the command's own. -/
theorem Accepts.exists_reads_trailing (h : frame.Accepts (words ++ rest) found)
    (hany : frame.command.takesAnySubcommand = false) (htrailing : frame.trailing = true) :
    ∃ next, frame.Reads words next ∧ next.Accepts rest found ∧ next.trailing = true := by
  induction words generalizing frame with
  | nil => exact ⟨frame, .nil, h, htrailing⟩
  | cons word words ih =>
    have hnot : ∀ sub, ¬ frame.Chooses word sub := by
      intro sub hchooses
      rw [hchooses.trailing] at htrailing
      cases htrailing
    obtain ⟨mid, htakes, hcommand, hmid⟩ := h.exists_takes hany hnot
    obtain ⟨arg, reader, resolved, -, hresolve, hplaced⟩ := takes_trailing htakes htrailing
    have hmid' : mid.trailing = true := by
      rw [hplaced]
      exact (resolve_ok hresolve).1.trailing.trans htrailing
    obtain ⟨next, hreads, hnext⟩ := ih hmid (hcommand ▸ hany) hmid'
    exact ⟨next, .cons htakes hreads, hnext⟩

variable {command : Command} {n : Nat}

theorem Ready.not_chooses (hready : frame.Ready command n) (hfree : command.IsFree word)
    (sub : Command) : ¬ frame.Chooses word sub := by
  intro hchooses
  have hfind := hchooses.find
  rw [hready.command, hfree.find] at hfind
  cases hfind

/-- An option that is named without its value waits for the next word. -/
theorem Ready.isAwaiting_of_takes (hready : frame.Ready command n) {name long : String} {arg : Arg}
    {reader : Reader} (hlong : IsLong word name none)
    (hfind : command.args.find? (·.shape.long? = some name) = some arg)
    (hshape : arg.shape = .option long reader) {next : Frame} (htakes : frame.Takes word next) :
    next.isAwaiting = true := by
  have hword := (hready.word_of_takes htakes).2
  rw [word_long hlong] at hword
  obtain ⟨next', hlong', hnext⟩ := map_eq_ok_iff.1 hword
  cases hnext
  obtain ⟨arg', hfind', hbegin⟩ := long_ok hlong'
  rw [hready.command, hfind] at hfind'
  cases hfind'
  unfold begin at hbegin
  simp only [hshape] at hbegin
  obtain ⟨resolved, -, rfl⟩ := map_eq_ok_iff.1 hbegin
  rfl

end Frame

open Switchboard.CommandLine.Frame

variable {command : Command} {n : Nat} {gs : List Given}

/-- An item in front of an accepted command line is read. -/
theorem Item.exists_reads {n' : Nat} (h : Item command n words gs n')
    (hready : frame.Ready command n) (hany : command.takesAnySubcommand = false)
    (haccepts : frame.Accepts (words ++ rest) found) :
    ∃ next, frame.Reads words next ∧ next.Accepts rest found := by
  have hany' : frame.command.takesAnySubcommand = false := hready.command ▸ hany
  have hsingle {word : String} (hfree : command.IsFree word)
      (haccepts : frame.Accepts (word :: rest) found) :
      ∃ next, frame.Reads [word] next ∧ next.Accepts rest found := by
    obtain ⟨next, htakes, -, hnext⟩ := haccepts.exists_takes hany' (hready.not_chooses hfree)
    exact ⟨next, .cons htakes .nil, hnext⟩
  cases h with
  | named hfree => exact hsingle hfree haccepts
  | letters hfree => exact hsingle hfree haccepts
  | placed hfree => exact hsingle hfree haccepts
  | @valued text name long value arg reader hfree hlong hfind hshape hvalue =>
    obtain ⟨mid, htakes, hcommand, hmid⟩ := haccepts.exists_takes hany' (hready.not_chooses hfree)
    -- the second word may be a name, but it is awaited as a value
    have hnot : ∀ sub, ¬ mid.Chooses value sub := by
      intro sub hchooses
      have hawaiting := hready.isAwaiting_of_takes hlong hfind hshape htakes
      rw [hchooses.awaiting] at hawaiting
      cases hawaiting
    obtain ⟨next, htakes', -, hnext⟩ := hmid.exists_takes (hcommand ▸ hany') hnot
    exact ⟨next, .cons htakes (.cons htakes' .nil), hnext⟩

/-- **Words in front of an accepted command line are read if they give something.** -/
theorem Gives.exists_reads (h : Gives command n words gs) (hready : frame.Ready command n)
    (hany : command.takesAnySubcommand = false) (haccepts : frame.Accepts (words ++ rest) found) :
    ∃ next, frame.Reads words next ∧ next.Accepts rest found
      ∧ ((∃ n', next.Ready command n') ∨ next.trailing = true) := by
  induction h generalizing frame with
  | nil => exact ⟨frame, .nil, haccepts, Or.inl ⟨_, hready⟩⟩
  | item hitem _ ih =>
    rw [List.append_assoc] at haccepts
    obtain ⟨mid, hfront, hmid⟩ := hitem.exists_reads hready hany haccepts
    obtain ⟨next, hback, hnext⟩ := ih (hitem.settled hready hfront).1 hmid
    exact ⟨next, reads_append_iff.2 ⟨mid, hfront, hback⟩, hnext⟩
  | dashes hfree hfills =>
    have hany' : frame.command.takesAnySubcommand = false := hready.command ▸ hany
    obtain ⟨mid, htakes, hcommand, hmid⟩ := haccepts.exists_takes hany' (hready.not_chooses hfree)
    have hword := (hready.word_of_takes htakes).2
    rw [word_dashes] at hword
    cases hword
    obtain ⟨next, hreads, hnext, htrailing⟩ := hmid.exists_reads_trailing hany' rfl
    exact ⟨next, .cons htakes hreads, hnext, Or.inr htrailing⟩

/-- **A command reads the words in front of the name of a subcommand**, if these give something and
nothing is given to it in its place. -/
theorem Command.holds_of_front (hids : (command.args.map Arg.id).Nodup)
    (hany : command.takesAnySubcommand = false) (hpositionals : command.positionals = [])
    {front back : List String} {name : String} {sub : Command}
    (h : command.parse (front ++ name :: back) = .ok found) (hfind : command.find? name = some sub)
    (hgives : Gives command 0 front gs) :
    ∃ below, sub.parse back = .ok below ∧ found.path = (sub.name, below.values) :: below.path
      ∧ Holds command gs found.values := by
  obtain ⟨next, hreads, haccepts, hplace⟩ :=
    hgives.exists_reads (ready_start command) hany (command.accepts_of_parse h)
  have hcommand : next.command = command := hreads.command_eq
  rcases haccepts.cons_cases (hcommand ▸ hany) with ⟨next', htakes, -⟩ |
    ⟨sub', below, hchooses, hparse, hclose, hpath⟩
  · exfalso
    rcases hplace with ⟨n', hready⟩ | htrailing
    · rw [(hready.word_of_takes htakes).1.find] at hfind
      cases hfind
    · obtain ⟨arg, reader, resolved, hat, -⟩ := takes_trailing htakes htrailing
      rw [hcommand, hpositionals] at hat
      cases hat
  · have hsub := hchooses.find
    rw [hcommand, hfind] at hsub
    cases hsub
    exact ⟨below, hparse, hpath, hgives.holds hids hreads hclose⟩

end Switchboard.CommandLine
