import Switchboard.Device.Generic
import Switchboard.Proofs.CommandLine.Values

/-!
# Parameters from the command line to the call

A parameter travels from its word on the command line to an argument of the call, and there a null
counts as not given. So a value is lost where it becomes null on the way. A literal may denote null,
and is meant to. But a floating-point parameter may also be infinite or no number at all, and as a
JSON value these become null too: the word was accepted, and the call does not see it.

`Descriptor.require_iff` says that this is all: any other value that is given, and any default,
reaches the call.
-/

namespace Switchboard

open CommandLine

variable {δ : Type}

/-! ## The word of a parameter -/

namespace Param

/-- The word that a parameter has where this is given: the one it is given with, else its default. A
flag that is given has none. -/
def word? (gs : List Given) (p : Param) : Option String :=
  match firstFor? p.name gs with
  | some given => given.text?
  | none => p.default

theorem word?_of_given {gs : List Given} {p : Param} {given : Given}
    (h : firstFor? p.name gs = some given) : p.word? gs = given.text? := by
  unfold word?
  rw [h]

theorem word?_of_absent {gs : List Given} {p : Param} (h : firstFor? p.name gs = none) :
    p.word? gs = p.default := by
  unfold word?
  rw [h]

theorem reader_of_shape {p : Param} {reader : Reader}
    (h : p.shape = .positional reader ∨ ∃ long, p.shape = .option long reader) :
    reader = p.kind.reader := by
  unfold shape at h
  split at h
  · rcases h with h | ⟨long, h⟩ <;> cases h
    rfl
  · split at h
    · rcases h with h | ⟨long, h⟩ <;> cases h
    · rcases h with h | ⟨long, h⟩ <;> cases h
      rfl

theorem kind_of_flag {p : Param} {long : String} (h : p.shape = .flag long) : p.kind = .bool := by
  unfold shape at h
  split at h
  · cases h
  · split at h
    · next hkind => exact hkind
    · cases h

theorem not_count (p : Param) (long : String) (letter : Char) : p.shape ≠ .count long letter := by
  unfold shape
  split
  · exact fun h => by cases h
  · split <;> exact fun h => by cases h

/-- The value of a parameter by its default: that of the default's word, or, for a flag without
one, false. -/
theorem default_cases {p : Param} {value : Option Value}
    (h : p.toArg.defaultValue? = .ok value) :
    (∃ word v, p.default = some word ∧ p.kind.reader.read word = .ok v ∧ value = some v)
      ∨ (p.default = none ∧ p.kind = .bool ∧ value = some (.bool false))
      ∨ (p.default = none ∧ value = none) := by
  unfold Arg.defaultValue? toArg at h
  dsimp only at h
  split at h
  · next reader word hshape hdefault =>
    obtain ⟨v, hread, rfl⟩ := map_eq_ok_iff.1 h
    rw [reader_of_shape (Or.inl hshape)] at hread
    exact Or.inl ⟨word, v, hdefault, hread, rfl⟩
  · next long reader word hshape hdefault =>
    obtain ⟨v, hread, rfl⟩ := map_eq_ok_iff.1 h
    rw [reader_of_shape (Or.inr ⟨long, hshape⟩)] at hread
    exact Or.inl ⟨word, v, hdefault, hread, rfl⟩
  · next long _ hshape =>
    obtain ⟨v, hread, rfl⟩ := map_eq_ok_iff.1 h
    have hkind := kind_of_flag hshape
    cases hdefault : p.default with
    | none =>
      rw [hdefault] at hread
      cases hread
      exact Or.inr (Or.inl ⟨rfl, hkind, rfl⟩)
    | some word =>
      rw [hdefault] at hread
      refine Or.inl ⟨word, v, rfl, ?_, rfl⟩
      rw [hkind]
      exact hread
  · next long letter hshape => exact absurd hshape (p.not_count long letter)
  · next hdefault _ _ =>
    cases h
    exact Or.inr (Or.inr ⟨hdefault, rfl⟩)

end Param

/-! ## What is found for a parameter -/

namespace Descriptor

theorem args_toCommand (d : Descriptor δ) : d.toCommand.args = d.params.map Param.toArg := rfl

theorem ids_toCommand (d : Descriptor δ) :
    d.toCommand.args.map Arg.id = d.params.map Param.name := by
  rw [args_toCommand, List.map_map]
  rfl

/-- **What a command finds for a parameter**: the value of its word, or true or false for a flag
without one, or nothing. -/
theorem value_cases {d : Descriptor δ} (hnames : (d.params.map Param.name).Nodup)
    {gs : List Given} {values : Entries Value} (h : Holds d.toCommand gs values) {p : Param}
    (hp : p ∈ d.params) :
    (∃ word v, p.word? gs = some word ∧ p.kind.reader.read word = .ok v
        ∧ Entries.get? p.name values = some v)
      ∨ (p.word? gs = none ∧ p.kind = .bool ∧ ∃ b, Entries.get? p.name values = some (.bool b))
      ∨ (p.word? gs = none ∧ p.default = none ∧ firstFor? p.name gs = none
        ∧ Entries.get? p.name values = none) := by
  have hids : (d.toCommand.args.map Arg.id).Nodup := by rwa [ids_toCommand]
  have hmem : p.toArg ∈ d.toCommand.args := List.mem_map_of_mem hp
  rcases h.value_cases hids hmem with ⟨reader, word, v, hfirst, hshape, hread, hget⟩ |
    ⟨long, hfirst, hshape, hget⟩ | ⟨long, letter, hshape⟩ | ⟨hfirst, -, hvalue⟩
  · rw [Param.reader_of_shape hshape] at hread
    exact Or.inl ⟨word, v, Param.word?_of_given hfirst, hread, hget⟩
  · exact Or.inr (Or.inl ⟨Param.word?_of_given hfirst, Param.kind_of_flag hshape, true, hget⟩)
  · exact absurd hshape (p.not_count long letter)
  · have hword := Param.word?_of_absent hfirst
    rcases Param.default_cases hvalue with ⟨word, v, hsome, hread, hget⟩ |
      ⟨hnone, hkind, hget⟩ | ⟨hnone, hget⟩
    · exact Or.inl ⟨word, v, hword.trans hsome, hread, hget⟩
    · exact Or.inr (Or.inl ⟨hword.trans hnone, hkind, false, hget⟩)
    · exact Or.inr (Or.inr ⟨hword.trans hnone, hnone, hfirst, hget⟩)

/-! ## Arguments of the call -/

/-- An argument of the call is what is extracted for its parameter. -/
theorem get?_extractArguments {d : Descriptor δ} (hnames : (d.params.map Param.name).Nodup)
    (values : Entries Value) {p : Param} (hp : p ∈ d.params) :
    Entries.get? p.name (d.extractArguments values) = some (p.extract values) := by
  have hnodup : (Entries.names (d.params.map fun p => (p.name, p.extract values))).Nodup := by
    rw [Entries.names, List.map_map]
    exact hnames
  unfold extractArguments Entries.ofList
  have hget := Entries.get?_foldl_insert id hnodup [] p.name
  simp only [id_eq] at hget
  rw [hget, (Entries.get?_eq_some_iff hnodup).2 (List.mem_map_of_mem hp)]
  rfl

end Descriptor

theorem Arguments.require_eq_ok_iff {name : String} {arguments : Arguments} {v : Json} :
    arguments.require name = .ok v ↔ Entries.get? name arguments = some v ∧ v.isNull = false := by
  unfold require given?
  cases hget : Entries.get? name arguments with
  | none => simp
  | some w =>
    cases hnull : w.isNull with
    | true =>
      rw [Option.filter_some_neg (by simp [hnull])]
      refine iff_of_false (fun h => by cases h) ?_
      rintro ⟨heq, hnot⟩
      cases heq
      rw [hnull] at hnot
      cases hnot
    | false =>
      rw [Option.filter_some_pos (by simp [hnull])]
      constructor
      · intro h
        cases h
        exact ⟨rfl, hnull⟩
      · rintro ⟨heq, -⟩
        cases heq
        rfl

/-- The words of a kind whose value is not told from no value: those of literals that denote null,
and those of floating-point numbers that are not finite. -/
def ParamKind.Loses (word : String) : ParamKind → Prop
  | .literal => Literal.parse word = .ok .null
  | .float => ∃ x, Binary64.parse word.toList = .ok x ∧ x.isFinite = false
  | _ => False

theorem isNull_ofFloat (x : Binary64) : (Json.ofFloat x).isNull = !x.isFinite := by
  unfold Json.ofFloat
  cases hfinite : x.isFinite <;> rfl

/-- **Which values become null.** -/
theorem ParamKind.isNull_valueOf_iff {kind : ParamKind} {word : String} {v : Value}
    (h : kind.reader.read word = .ok v) :
    (Param.valueOf kind v).isNull = true ↔ kind.Loses word := by
  cases kind with
  | text =>
    cases h
    exact iff_of_false Bool.false_ne_true id
  | integer =>
    dsimp only [reader, Reader.read] at h
    split at h <;> cases h
    exact iff_of_false Bool.false_ne_true id
  | float =>
    dsimp only [reader, Reader.read] at h
    split at h
    · next x hparse =>
      cases h
      have hnull : (Param.valueOf .float (.float x)).isNull = !x.isFinite := isNull_ofFloat x
      rw [hnull, Bool.not_eq_true']
      constructor
      · exact fun hfinite => ⟨x, hparse, hfinite⟩
      · rintro ⟨y, hy, hfinite⟩
        rw [hparse] at hy
        cases hy
        exact hfinite
    · cases h
  | bool =>
    dsimp only [reader, Reader.read, readBool] at h
    split at h
    · cases h
      exact iff_of_false Bool.false_ne_true id
    · split at h <;> cases h
      exact iff_of_false Bool.false_ne_true id
  | literal =>
    obtain ⟨value, hparse, rfl⟩ := validated_eq_ok_iff.1 h
    unfold Param.valueOf Loses
    rw [hparse]
    cases value <;> simp [Json.isNull]
  | choice choices =>
    obtain ⟨choice, -, rfl⟩ := validated_eq_ok_iff.1 h
    exact iff_of_false Bool.false_ne_true id

namespace Descriptor

/--
**Values reach the call.**

Let a command with parameters of different names accept a command line. Its words give something;
and whatever they give, each parameter that is given or has a default is found when the call
requires it, unless its word is that of a literal that denotes null or of a floating-point number
that is not finite.
-/
theorem require_iff {d : Descriptor δ} (hnames : (d.params.map Param.name).Nodup)
    {words : List String} {found : Matches} (h : d.toCommand.parse words = .ok found) :
    (∃ gs, Gives d.toCommand 0 words gs)
      ∧ ∀ gs, Gives d.toCommand 0 words gs → ∀ p ∈ d.params,
        (∃ given ∈ gs, given.arg = p.toArg) ∨ p.default.isSome = true →
          ((∃ v, (d.extractArguments found.values).require p.name = .ok v)
            ↔ ∀ word, p.word? gs = some word → ¬ p.kind.Loses word) := by
  have hids : (d.toCommand.args.map Arg.id).Nodup := by rwa [ids_toCommand]
  obtain ⟨-, hgives, hholds⟩ := Command.exists_holds_alone hids rfl rfl h
  refine ⟨hgives, fun gs hgs p hp hpresent => ?_⟩
  have hrequire : (∃ v, (d.extractArguments found.values).require p.name = .ok v)
      ↔ (p.extract found.values).isNull = false := by
    simp only [Arguments.require_eq_ok_iff, get?_extractArguments hnames found.values hp,
      Option.some.injEq, exists_eq_left']
  rw [hrequire]
  unfold Param.extract
  rcases value_cases hnames (hholds gs hgs) hp with ⟨word, v, hword, hread, hget⟩ |
    ⟨hword, hkind, b, hget⟩ | ⟨-, hdefault, habsent, -⟩
  · rw [hget, hword, ← Bool.not_eq_true, ParamKind.isNull_valueOf_iff hread]
    exact ⟨fun hnot word' heq => by cases heq; exact hnot, fun hall => hall word rfl⟩
  · rw [hget, hword, hkind]
    exact iff_of_true rfl fun word heq => by cases heq
  · -- such a parameter is neither given nor has it a default
    rcases hpresent with ⟨given, hin, harg⟩ | hsome
    · have hne := List.find?_eq_none.1 habsent given hin
      rw [harg] at hne
      exact absurd (decide_eq_true rfl) hne
    · rw [hdefault] at hsome
      cases hsome

/-- A literal that denotes null is lost, and the word beside it is not. -/
theorem require_rawCommand :
    let d := GenericDevice.rawCommand
    let found : Matches := ⟨[("command", .text "get_prop"), ("parameters", .literal .null)], []⟩
    (d.params.map Param.name).Nodup ∧ d.toCommand.parse ["get_prop", "null"] = .ok found
      ∧ (∃ v, (d.extractArguments found.values).require "command" = .ok v)
      ∧ ¬ ∃ v, (d.extractArguments found.values).require "parameters" = .ok v := by
  intro d found
  have hnames : (d.params.map Param.name).Nodup := by decide
  have hparse : d.toCommand.parse ["get_prop", "null"] = .ok found := rfl
  have hplaced (n : Nat) {text : String} {arg : Arg} {reader : Reader} (hdash : ¬ IsDashed text)
      (hat : d.toCommand.positionals[n]? = some (arg, reader)) :
      Item d.toCommand n [text] [.word arg reader text] (n + 1) :=
    .placed (Command.isFree_of_subcommands_nil rfl text) hdash hat
  have hcommand : ¬ IsDashed "get_prop" := not_isDashed_of_head? (by decide)
  have hparameters : ¬ IsDashed "null" := not_isDashed_of_head? (by decide)
  have hgives := Gives.item (hplaced 0 hcommand rfl) (.item (hplaced 1 hparameters rfl) .nil)
  obtain ⟨-, hrequire⟩ := require_iff hnames hparse
  refine ⟨hnames, hparse, ?_, ?_⟩
  · have hmem : (Param.argument "command" .text).withHelp "Method name" ∈ d.params :=
      List.mem_cons_self
    refine (hrequire _ hgives _ hmem (Or.inl ⟨_, List.mem_cons_self, rfl⟩)).2 ?_
    exact fun _ _ => id
  · intro hok
    have hmem : d.params[1] ∈ d.params := List.getElem_mem _
    refine (hrequire _ hgives _ hmem (Or.inl ?_)).1 hok "null" rfl rfl
    exact ⟨_, List.mem_cons_of_mem _ List.mem_cons_self, rfl⟩

/-- A command with a floating-point parameter. -/
def speedCommand : Descriptor Unit :=
  .build "set" (fun arguments device => .ended device arguments (.ok .unit))
    [.param (.option "speed" .float)]

set_option maxRecDepth 10000 in
theorem parse_speedCommand : speedCommand.toCommand.parse ["--speed", "inf"]
    = .ok ⟨[("speed", .float (.infinite false))], []⟩ := rfl

/-- A number that is given and is not finite is missing from the call. -/
theorem not_require_given :
    ¬ ∀ (d : Descriptor Unit) (words : List String) (found : Matches) (gs : List Given),
      (d.params.map Param.name).Nodup → d.toCommand.parse words = .ok found →
      Gives d.toCommand 0 words gs → ∀ p ∈ d.params,
        (∃ given ∈ gs, given.arg = p.toArg) ∨ p.default.isSome = true →
          (∃ v, (d.extractArguments found.values).require p.name = .ok v)
            ∨ p.kind = .literal ∧ ∃ word, p.word? gs = some word
              ∧ Literal.parse word = .ok .null := by
  intro hclaim
  have hlong : IsLong "--speed" "speed" none := ⟨rfl, by decide, by decide⟩
  have hdash : ¬ IsDashed "inf" := not_isDashed_of_head? (by decide)
  have hfree : speedCommand.toCommand.IsFree "--speed" :=
    Command.isFree_of_subcommands_nil rfl "--speed"
  have hitem : Item speedCommand.toCommand 0 ["--speed", "inf"]
      [.word (Param.option "speed" .float).toArg .float "inf"] 0 :=
    .valued hfree hlong rfl rfl hdash
  have hmem : Param.option "speed" .float ∈ speedCommand.params := List.mem_cons_self
  -- the argument is null, which counts as not given
  rcases hclaim speedCommand _ _ _ (by decide) parse_speedCommand (.item hitem .nil) _ hmem
    (Or.inl ⟨_, List.mem_cons_self, rfl⟩) with ⟨v, hv⟩ | ⟨hkind, -⟩
  · cases hv
  · cases hkind

end Descriptor

end Switchboard
