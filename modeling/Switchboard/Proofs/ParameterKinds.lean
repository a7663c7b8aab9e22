import Switchboard.Proofs.Choices
import Switchboard.Proofs.Numerals
import Switchboard.Proofs.Parameters

/-!
# Parameters and their kinds

How the word of a parameter is read is chosen when the command line is laid out, and what value is
asked for is chosen once more when the arguments of the call are put together. Where the two did not
fit, the argument would be null, without any fault.

They always fit. `ParamKind.Denotes` says what a word denotes for each kind, and
`extractArguments_denotes` that the argument of every parameter is what its own word denotes,
whatever else the command line holds.
-/

namespace Switchboard

open CommandLine

variable {δ : Type}

/-! ## What words denote -/

/-- What a word denotes as a value of a kind. -/
inductive ParamKind.Denotes (word : String) : ParamKind → Json → Prop where
  | text : Denotes word .text (.string word)
  | integer {n : Int} : Decimal.Denotes word.toList n → Decimal.leastInt64 ≤ n →
      n ≤ Decimal.greatestInt64 → Denotes word .integer (.ofInt n)
  | float {x : Binary64} : Binary64.parse word.toList = .ok x → x.isFinite = true →
      Denotes word .float (.number (.float x))
  | bool {b : Bool} : word = (if b then "true" else "false") → Denotes word .bool (.bool b)
  | literal {v : Json} : Literal.parse word = .ok v → Denotes word .literal v
  /-- The first of the choices that the word is a spelling of. -/
  | choice {front back : List String} {choice : String} :
      (∀ other ∈ front, Choice.folded other ≠ Choice.folded word) →
      Choice.folded choice = Choice.folded word →
      Denotes word (.choice (front ++ choice :: back)) (.string choice)

theorem Choice.exists_of_parse {choices : List String} {value choice : String}
    (h : parse choices value = .ok choice) :
    ∃ front back, choices = front ++ choice :: back
      ∧ (∀ other ∈ front, folded other ≠ folded value) ∧ folded choice = folded value := by
  unfold parse at h
  split at h
  · next found hfind =>
    cases h
    obtain ⟨hfound, front, back, hchoices, hfront⟩ := List.find?_eq_some_iff_append.1 hfind
    refine ⟨front, back, hchoices, fun other hother heq => ?_,
      (eqIgnoringAsciiCase_iff _ _).1 hfound⟩
    have hnot := hfront other hother
    rw [(eqIgnoringAsciiCase_iff _ _).2 heq] at hnot
    cases hnot
  · cases h

theorem read_bool {word : String} {v : Value} (h : readBool word = .ok v) :
    ∃ b, v = .bool b ∧ word = if b then "true" else "false" := by
  unfold readBool at h
  split at h
  · next hword =>
    cases h
    exact ⟨true, rfl, hword⟩
  · split at h
    · next hword =>
      cases h
      exact ⟨false, rfl, hword⟩
    · cases h

/-- **A word that is read becomes the argument that it denotes**, or null where it is lost. -/
theorem ParamKind.denotes_valueOf {kind : ParamKind} {word : String} {v : Value}
    (h : kind.reader.read word = .ok v) :
    kind.Denotes word (Param.valueOf kind v)
      ∨ Param.valueOf kind v = .null ∧ kind.Loses word := by
  cases kind with
  | text =>
    cases h
    exact Or.inl .text
  | integer =>
    dsimp only [reader, Reader.read] at h
    split at h
    · next n hread =>
      cases h
      obtain ⟨hdenotes, -, hleast, hgreatest⟩ :=
        (Decimal.integer_eq_ok_iff (by decide) (by decide)).1 hread
      exact Or.inl (.integer hdenotes hleast hgreatest)
    · cases h
  | float =>
    dsimp only [reader, Reader.read] at h
    split at h
    · next x hparse =>
      cases h
      have hvalue : Param.valueOf .float (.float x) = Json.ofFloat x := rfl
      rw [hvalue, Json.ofFloat]
      cases hfinite : x.isFinite with
      | true => exact Or.inl (.float hparse hfinite)
      | false => exact Or.inr ⟨rfl, x, hparse, hfinite⟩
    · cases h
  | bool =>
    obtain ⟨b, rfl, hword⟩ := read_bool h
    exact Or.inl (.bool hword)
  | literal =>
    obtain ⟨value, hparse, rfl⟩ := validated_eq_ok_iff.1 h
    exact Or.inl (.literal hparse)
  | choice choices =>
    obtain ⟨choice, hparse, rfl⟩ := validated_eq_ok_iff.1 h
    obtain ⟨front, back, rfl, hfront, hchoice⟩ := Choice.exists_of_parse hparse
    exact Or.inl (.choice hfront hchoice)

/-! ## Flags and words -/

namespace Param

/-- A parameter that is given by its name alone. -/
def IsFlag (p : Param) : Prop := p.kind = .bool ∧ p.positional = false

instance (p : Param) : Decidable p.IsFlag :=
  inferInstanceAs (Decidable (p.kind = .bool ∧ p.positional = false))

/-- Whether a parameter is given. -/
def IsGiven (p : Param) (gs : List Given) : Prop := ∃ given ∈ gs, given.arg = p.toArg

theorem isFlag_of_shape {p : Param} {long : String} (h : p.shape = .flag long) : p.IsFlag := by
  refine ⟨kind_of_flag h, ?_⟩
  rw [← Bool.not_eq_true]
  intro hpositional
  rw [shape, if_pos hpositional] at h
  cases h

theorem shape_of_isFlag {p : Param} (h : p.IsFlag) : p.shape = .flag p.long := by
  rw [shape, h.2, if_neg Bool.false_ne_true, if_pos h.1]

theorem isGiven_of_firstFor? {p : Param} {gs : List Given} {given : Given}
    (h : firstFor? p.name gs = some given) (harg : given.arg = p.toArg) : p.IsGiven gs :=
  ⟨given, List.mem_of_find?_eq_some h, harg⟩

theorem not_isGiven_of_firstFor? {p : Param} {gs : List Given}
    (h : firstFor? p.name gs = none) : ¬ p.IsGiven gs := by
  rintro ⟨given, hmem, harg⟩
  have hne := List.find?_eq_none.1 h given hmem
  rw [harg] at hne
  exact hne (decide_eq_true rfl)

/-- What is found for a parameter where this is given. -/
structure Finds (p : Param) (gs : List Given) (found : Option Value) : Prop where
  /-- A flag is true if it is given, or by its default. -/
  flag : p.IsFlag →
    ∃ b, found = some (.bool b) ∧ (b = true ↔ p.IsGiven gs ∨ p.default = some "true")
  /-- Any other parameter has a word if it is given, or by its default. -/
  hasWord : ¬ p.IsFlag → ((∃ word, p.word? gs = some word) ↔ p.IsGiven gs ∨ p.default ≠ none)
  /-- What is found then is what the word is read as. -/
  word : ¬ p.IsFlag → ∀ word, p.word? gs = some word →
    ∃ v, p.kind.reader.read word = .ok v ∧ found = some v
  absent : ¬ p.IsFlag → p.word? gs = none → found = none

/-- The default of a flag is one of the two words of truth, if it has one. -/
theorem defaultValue?_flag {p : Param} (h : p.IsFlag) {found : Option Value}
    (hfound : p.toArg.defaultValue? = .ok found) :
    ∃ b, found = some (.bool b) ∧ (b = true ↔ p.default = some "true") := by
  have hshape : p.toArg.shape = .flag p.long := shape_of_isFlag h
  have hdefault : p.toArg.default = p.default := rfl
  rw [Arg.defaultValue?, hshape] at hfound
  dsimp only at hfound
  rw [hdefault] at hfound
  obtain ⟨v, hread, rfl⟩ := map_eq_ok_iff.1 hfound
  obtain ⟨b, rfl, hword⟩ := read_bool hread
  refine ⟨b, rfl, ?_⟩
  cases hcase : p.default with
  | none =>
    rw [hcase] at hword
    cases b with
    | true => exact absurd hword (by decide)
    | false => exact iff_of_false Bool.false_ne_true (fun h => by cases h)
  | some word =>
    rw [hcase, Option.getD_some] at hword
    subst hword
    cases b with
    | true => exact iff_of_true rfl rfl
    | false => exact iff_of_false Bool.false_ne_true (by decide)

theorem defaultValue?_word {p : Param} (h : ¬ p.IsFlag) {found : Option Value}
    (hfound : p.toArg.defaultValue? = .ok found) :
    (∃ word v, p.default = some word ∧ p.kind.reader.read word = .ok v ∧ found = some v)
      ∨ (p.default = none ∧ found = none) := by
  rcases default_cases hfound with hword | ⟨hdefault, hkind, rfl⟩ | hnone
  · exact Or.inl hword
  · -- without a default only a flag is false
    have hpositional : p.positional = true := by
      rw [← Bool.not_eq_false]
      exact fun hpositional => h ⟨hkind, hpositional⟩
    have hshape : p.toArg.shape = .positional p.kind.reader := if_pos hpositional
    have hdefault' : p.toArg.default = none := hdefault
    rw [Arg.defaultValue?, hshape, hdefault'] at hfound
    cases hfound
  · exact Or.inr hnone

end Param

namespace Descriptor

/-- **What a command finds for a parameter.** -/
theorem finds {d : Descriptor δ} (hnames : (d.params.map Param.name).Nodup) {gs : List Given}
    {values : Entries Value} (h : Holds d.toCommand gs values) {p : Param} (hp : p ∈ d.params) :
    p.Finds gs (Entries.get? p.name values) := by
  have hids : (d.toCommand.args.map Arg.id).Nodup := by rwa [ids_toCommand]
  rcases h.value_cases hids (List.mem_map_of_mem hp) with
    ⟨reader, word, v, hfirst, hshape, hread, hget⟩ | ⟨long, hfirst, hshape, hget⟩ |
    ⟨long, letter, hshape⟩ | ⟨hfirst, -, hvalue⟩
  · rw [Param.reader_of_shape hshape] at hread
    have hflag : ¬ p.IsFlag := by
      intro hflag
      have hshape' : p.toArg.shape = .flag p.long := Param.shape_of_isFlag hflag
      rw [hshape'] at hshape
      rcases hshape with hshape | ⟨long, hshape⟩ <;> cases hshape
    have hword : p.word? gs = some word := Param.word?_of_given hfirst
    have hgiven : p.IsGiven gs := Param.isGiven_of_firstFor? hfirst rfl
    refine ⟨fun h => absurd h hflag, fun _ => iff_of_true ⟨word, hword⟩ (Or.inl hgiven),
      fun _ word' hword' => ?_, fun _ hnone => ?_⟩
    · rw [hword] at hword'
      cases hword'
      exact ⟨v, hread, hget⟩
    · rw [hword] at hnone
      cases hnone
  · have hflag : p.IsFlag := Param.isFlag_of_shape hshape
    have hgiven : p.IsGiven gs := Param.isGiven_of_firstFor? hfirst rfl
    exact ⟨fun _ => ⟨true, hget, iff_of_true rfl (Or.inl hgiven)⟩,
      fun h => absurd hflag h, fun h => absurd hflag h, fun h => absurd hflag h⟩
  · exact absurd hshape (p.not_count long letter)
  · have hgiven : ¬ p.IsGiven gs := Param.not_isGiven_of_firstFor? hfirst
    have hword : p.word? gs = p.default := Param.word?_of_absent hfirst
    refine ⟨fun hflag => ?_, fun _ => ?_, fun hflag word hsome => ?_, fun hflag hnone => ?_⟩
    · obtain ⟨b, hget, hb⟩ := Param.defaultValue?_flag hflag hvalue
      exact ⟨b, hget, hb.trans (or_iff_right hgiven).symm⟩
    · rw [hword, or_iff_right hgiven, Option.ne_none_iff_exists']
    · rcases Param.defaultValue?_word hflag hvalue with ⟨word', v, hdefault, hread, hget⟩ |
        ⟨hdefault, -⟩
      · rw [hword, hdefault] at hsome
        cases hsome
        exact ⟨v, hread, hget⟩
      · rw [hword, hdefault] at hsome
        cases hsome
    · rcases Param.defaultValue?_word hflag hvalue with ⟨word, v, hdefault, -⟩ | ⟨-, hget⟩
      · rw [hword, hdefault] at hnone
        cases hnone
      · exact hget

end Descriptor

/-- **What is found for a parameter depends on its own word**, and for a flag on whether it is
given. -/
theorem Param.Finds.eq {p : Param} {gs gs' : List Given} {found found' : Option Value}
    (h : p.Finds gs found) (h' : p.Finds gs' found') (hword : p.word? gs' = p.word? gs)
    (hgiven : p.IsFlag → (p.IsGiven gs' ↔ p.IsGiven gs)) : found' = found := by
  by_cases hflag : p.IsFlag
  · obtain ⟨b, rfl, hb⟩ := h.flag hflag
    obtain ⟨b', rfl, hb'⟩ := h'.flag hflag
    rw [hgiven hflag, ← hb, ← Bool.eq_iff_iff] at hb'
    rw [hb']
  · cases hcase : p.word? gs with
    | none => rw [h.absent hflag hcase, h'.absent hflag (hword.trans hcase)]
    | some word =>
      obtain ⟨v, hread, rfl⟩ := h.word hflag word hcase
      obtain ⟨v', hread', rfl⟩ := h'.word hflag word (hword.trans hcase)
      rw [hread] at hread'
      cases hread'
      rfl

/-! ## Arguments -/

/-- What the argument of a parameter is where this is given. -/
structure Param.Yields (p : Param) (gs : List Given) (v : Json) : Prop where
  /-- That of a flag is true if it is given, or by its default, else false. -/
  flag : p.IsFlag → ∃ b, v = .bool b ∧ (b = true ↔ p.IsGiven gs ∨ p.default = some "true")
  /-- That of any other parameter which is given or has a default is what its word denotes, or null
  where the word is lost. -/
  word : ¬ p.IsFlag → p.IsGiven gs ∨ p.default ≠ none →
    ∃ word, p.word? gs = some word
      ∧ (p.kind.Denotes word v ∨ v = .null ∧ p.kind.Loses word)
  absent : ¬ p.IsFlag → ¬ p.IsGiven gs → p.default = none → v = .null

theorem Param.Finds.yields {p : Param} {gs : List Given} {values : Entries Value}
    (h : p.Finds gs (Entries.get? p.name values)) : p.Yields gs (p.extract values) := by
  unfold extract
  refine ⟨fun hflag => ?_, fun hflag hpresent => ?_, fun hflag hgiven hdefault => ?_⟩
  · obtain ⟨b, hget, hb⟩ := h.flag hflag
    rw [hget, hflag.1]
    exact ⟨b, rfl, hb⟩
  · obtain ⟨word, hword⟩ := (h.hasWord hflag).2 hpresent
    obtain ⟨v, hread, hget⟩ := h.word hflag word hword
    rw [hget]
    exact ⟨word, hword, ParamKind.denotes_valueOf hread⟩
  · have hword : p.word? gs = none := by
      by_contra hsome
      have hpresent := (h.hasWord hflag).1 (Option.ne_none_iff_exists'.1 hsome)
      exact hpresent.elim hgiven fun hne => hne hdefault
    rw [h.absent hflag hword]

namespace Descriptor

theorem names_extractArguments {d : Descriptor δ} (hnames : (d.params.map Param.name).Nodup)
    (values : Entries Value) :
    (Entries.names (d.extractArguments values)).Perm (d.params.map Param.name) := by
  have hsame : Entries.names (d.params.map fun p => (p.name, p.extract values))
      = d.params.map Param.name := List.map_map
  rw [← hsame] at hnames ⊢
  exact (Entries.ofList_perm hnames).map _

/--
**Arguments agree with the kinds of their parameters.**

Let a command with parameters of different names accept a command line. The arguments of the call
have the names of the parameters. Its words give something; and whatever they give, each argument
is what the word of its parameter denotes, or null where the word is lost, and null without a word.
That of a flag is whether it is given, or its default.

Nor is there anything else that an argument depends on: where any command line gives the same word
to the same parameter, its argument is the same.
-/
theorem extractArguments_denotes {d : Descriptor δ} (hnames : (d.params.map Param.name).Nodup)
    {words : List String} {found : Matches} (h : d.toCommand.parse words = .ok found) :
    (Entries.names (d.extractArguments found.values)).Perm (d.params.map Param.name)
      ∧ (∃ gs, Gives d.toCommand 0 words gs)
      ∧ ∀ gs, Gives d.toCommand 0 words gs → ∀ p ∈ d.params, ∃ v,
        Entries.get? p.name (d.extractArguments found.values) = some v
          ∧ p.Yields gs v
          ∧ ∀ (d' : Descriptor δ) (words' : List String) (found' : Matches) (gs' : List Given),
            (d'.params.map Param.name).Nodup → d'.toCommand.parse words' = .ok found' →
            Gives d'.toCommand 0 words' gs' → p ∈ d'.params → p.word? gs' = p.word? gs →
            (p.IsFlag → (p.IsGiven gs' ↔ p.IsGiven gs)) →
              Entries.get? p.name (d'.extractArguments found'.values) = some v := by
  have holds_of {d : Descriptor δ} (hnames : (d.params.map Param.name).Nodup)
      {words : List String} {found : Matches} (h : d.toCommand.parse words = .ok found) :=
    Command.exists_holds_alone (ids_toCommand d ▸ hnames) rfl rfl h
  obtain ⟨-, hgives, hholds⟩ := holds_of hnames h
  refine ⟨names_extractArguments hnames _, hgives, fun gs hgs p hp => ?_⟩
  have hfinds : p.Finds gs (Entries.get? p.name found.values) := finds hnames (hholds gs hgs) hp
  refine ⟨_, get?_extractArguments hnames _ hp, hfinds.yields, ?_⟩
  intro d' words' found' gs' hnames' h' hgs' hp' hword hgiven
  obtain ⟨-, -, hholds'⟩ := holds_of hnames' h'
  have hfinds' := finds hnames' (hholds' gs' hgs') hp'
  rw [get?_extractArguments hnames' _ hp', Param.extract, Param.extract,
    hfinds.eq hfinds' hword hgiven]

/-- A command with a choice in its place, a number by its name, and a flag. -/
def modeCommand : Descriptor Unit :=
  .build "set_mode" (fun arguments device => .ended device arguments (.ok .unit))
    [.param (.argument "mode" (.choice ["Auto", "Silent"])),
      .param ((Param.option "level" .integer).withDefault "40"), .param (.flag "dry_run")]

/-- What that command finds when it is given a word and its flag. -/
def modeMatches : Matches :=
  ⟨[("dry_run", .bool true), ("level", .int 40), ("mode", .text "Silent")], []⟩

/-- A choice is found up to case, a number is that of its default, and a flag is true once it is
given. -/
theorem extractArguments_modeCommand :
    (modeCommand.params.map Param.name).Nodup
      ∧ modeCommand.toCommand.parse ["silent", "--dry-run"] = .ok modeMatches
      ∧ (ParamKind.choice ["Auto", "Silent"]).Denotes "silent" (.string "Silent")
      ∧ ParamKind.integer.Denotes "40" (.ofInt 40)
      ∧ Entries.get? "dry_run" (modeCommand.extractArguments modeMatches.values)
        = some (.bool true) := by
  have hnames : (modeCommand.params.map Param.name).Nodup := by decide
  have hparse : modeCommand.toCommand.parse ["silent", "--dry-run"] = .ok modeMatches := rfl
  have hfree (text : String) : modeCommand.toCommand.IsFree text :=
    Command.isFree_of_subcommands_nil rfl text
  have hdash : ¬ IsDashed "silent" := not_isDashed_of_head? (by decide)
  have hlong : IsLong "--dry-run" "dry-run" none := ⟨rfl, by decide, by decide⟩
  have hplaced : Item modeCommand.toCommand 0 ["silent"] _ 1 := .placed (hfree _) hdash rfl
  have hnamed : Item modeCommand.toCommand 1 ["--dry-run"] _ 1 := .named (hfree _) hlong rfl rfl
  obtain ⟨-, -, hdenotes⟩ := extractArguments_denotes hnames hparse
  have harguments := hdenotes _ (.item hplaced (.item hnamed .nil))
  refine ⟨hnames, hparse, ?_, ?_, ?_⟩
  · obtain ⟨v, hget, hyields, -⟩ := harguments modeCommand.params[0] (List.getElem_mem _)
    have hmode : Entries.get? "mode" (modeCommand.extractArguments modeMatches.values)
        = some (.string "Silent") := rfl
    cases hmode.symm.trans hget
    obtain ⟨word, hword, hdenotes⟩ :=
      hyields.word (by decide) (Or.inl ⟨_, List.mem_cons_self, rfl⟩)
    cases hword
    exact hdenotes.resolve_right nofun
  · obtain ⟨v, hget, hyields, -⟩ := harguments modeCommand.params[1] (List.getElem_mem _)
    have hlevel : Entries.get? "level" (modeCommand.extractArguments modeMatches.values)
        = some (.ofInt 40) := rfl
    cases hlevel.symm.trans hget
    obtain ⟨word, hword, hdenotes⟩ := hyields.word (by decide) (Or.inr nofun)
    cases hword
    exact hdenotes.resolve_right nofun
  · obtain ⟨v, hget, hyields, -⟩ := harguments modeCommand.params[2] (List.getElem_mem _)
    obtain ⟨b, rfl, hb⟩ := hyields.flag (by decide)
    have hgiven : b = true :=
      hb.2 (Or.inl ⟨_, List.mem_append_right _ List.mem_cons_self, rfl⟩)
    rw [← hgiven]
    exact hget

end Descriptor

end Switchboard
