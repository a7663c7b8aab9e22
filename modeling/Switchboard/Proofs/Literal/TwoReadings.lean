import Switchboard.Proofs.Literal.Lexemes

/-!
# One text, two readings

A text may be read as JSON and as a loose literal. The two machines do not agree on what a string
says, since they know different escapes, but they agree on where it begins and ends
(`inside_step`): a backslash never stands alone in either, and the codes of JSON hold no quote.

Two things follow. If a text is JSON and a part at its front can be read loosely, then that part can
be read as JSON (`tokenize_split`). And a string of JSON has a content in either reading
(`string_split`).
-/

namespace Switchboard.Literal

open Json (Token tokenize)
open Json.Lexer (StartsWithBreak isBreak)

/-- A state outside of strings. -/
def Outside : Json.Lexer.State → Prop
  | .between => True
  | .number _ => True
  | .word _ => True
  | _ => False

/-- A state outside of strings, for the reader of lexemes. -/
def State.Outside : State → Prop
  | .between => True
  | .number _ => True
  | .word _ => True
  | _ => False

/-- The two machines stand inside of the same string, with nothing to say about what they have
gathered. -/
inductive Inside : Json.Lexer.State → State → Prop where
  | string {x y : List Char} : Inside (.string x) (.string '"' y)
  | escape {x y : List Char} : Inside (.escape x) (.escape '"' y)
  | code {x y : List Char} {high : Option Nat} {value owed : Nat} :
      Inside (.code x high value owed) (.string '"' y)
  | surrogate {x y : List Char} {high : Nat} : Inside (.surrogate x high) (.string '"' y)
  | surrogateEscape {x y : List Char} {high : Nat} :
      Inside (.surrogateEscape x high) (.escape '"' y)

theorem code?_cases {x : List Char} {high : Option Nat} {value : Nat} {next : Json.Lexer.State}
    (h : Json.Lexer.code? x high value = some next) :
    (∃ e, next = .string (e :: x)) ∨ next = .surrogate x value := by
  unfold Json.Lexer.code? at h
  cases high with
  | some high =>
      dsimp only at h
      split at h
      · cases h
        exact Or.inl ⟨_, rfl⟩
      · cases h
  | none =>
      dsimp only at h
      split at h
      · cases h
        exact Or.inr rfl
      · split at h
        · cases h
        · cases h
          exact Or.inl ⟨_, rfl⟩

/-- A digit of a code is no character that means something in a loose string. -/
theorem ne_of_digitIn? {c : Char} {base digit : Nat} (h : Decimal.digitIn? base c = some digit) :
    c ≠ '\\' ∧ c ≠ '"' := by
  constructor
  · rintro rfl
    rw [Json.Lexer.digitIn?_of_isBreak (by decide)] at h
    cases h
  · rintro rfl
    rw [Json.Lexer.digitIn?_of_isBreak (by decide)] at h
    cases h

/-- **Inside of a string both machines stay, or both leave it.** -/
theorem inside_step {c : Char} {state next : Json.Lexer.State} {other : State}
    {out : List Token} (h : Inside state other)
    (hstep : Json.Lexer.step c state = some (out, next)) :
    (c = '"' ∧ (∃ x y, state = .string x ∧ other = .string '"' y) ∧ next = .between) ∨
    (out = [] ∧ (step c other).1 = [] ∧ Inside next (step c other).2) := by
  cases h with
  | string =>
      rw [Json.Lexer.step] at hstep
      split at hstep
      · next hquote =>
        cases hstep
        exact Or.inl ⟨hquote, ⟨_, _, rfl, rfl⟩, rfl⟩
      · next hquote =>
        rw [step]
        split at hstep
        · next hbackslash =>
          cases hstep
          rw [if_pos hbackslash]
          exact Or.inr ⟨rfl, rfl, .escape⟩
        · next hbackslash =>
          rw [if_neg hbackslash, if_neg hquote]
          split at hstep
          · cases hstep
          · cases hstep
            exact Or.inr ⟨rfl, rfl, .string⟩
  | escape =>
      rw [Json.Lexer.step] at hstep
      split at hstep
      · cases hstep
        exact Or.inr ⟨rfl, rfl, .code⟩
      · obtain ⟨e, -, heq⟩ := Option.map_eq_some_iff.1 hstep
        cases heq
        exact Or.inr ⟨rfl, rfl, .string⟩
  | @code x y high value owed =>
      rw [Json.Lexer.step] at hstep
      obtain ⟨digit, hdigit, hstep⟩ := Option.bind_eq_some_iff.1 hstep
      have hc := ne_of_digitIn? hdigit
      rw [step, if_neg hc.1, if_neg hc.2]
      dsimp only at hstep
      split at hstep
      · obtain ⟨last, hcode, heq⟩ := Option.map_eq_some_iff.1 hstep
        cases heq
        refine Or.inr ⟨rfl, rfl, ?_⟩
        rcases code?_cases hcode with ⟨e, rfl⟩ | rfl
        · exact .string
        · exact .surrogate
      · cases hstep
        exact Or.inr ⟨rfl, rfl, .code⟩
  | surrogate =>
      rw [Json.Lexer.step] at hstep
      split at hstep
      · next hbackslash =>
        cases hstep
        rw [step, if_pos hbackslash]
        exact Or.inr ⟨rfl, rfl, .surrogateEscape⟩
      · cases hstep
  | surrogateEscape =>
      rw [Json.Lexer.step] at hstep
      split at hstep
      · cases hstep
        exact Or.inr ⟨rfl, rfl, .code⟩
      · cases hstep

/-- What JSON allows between tokens begins a string, with its own quote, or stays outside. -/
theorem outside_of_start {c : Char} {next : Json.Lexer.State} {out : List Token}
    (h : Json.Lexer.start c = some (out, next)) :
    (c = '"' ∧ next = .string []) ∨ (c ≠ '"' ∧ c ≠ '\'' ∧ Outside next) := by
  have hsingle : c ≠ '\'' := by
    rintro rfl
    have hnone : Json.Lexer.start '\'' = none := rfl
    rw [hnone] at h
    cases h
  by_cases hdouble : c = '"'
  · subst hdouble
    cases h
    exact Or.inl ⟨rfl, rfl⟩
  · refine Or.inr ⟨hdouble, hsingle, ?_⟩
    cases Json.Lexer.began_of_start h with
    | string hquote => exact absurd hquote hdouble
    | blank | mark | number | word => trivial

theorem ne_quote_of_isNumberChar {c : Char} (h : Json.Lexer.isNumberChar c = true) :
    c ≠ '"' ∧ c ≠ '\'' := by
  constructor
  · rintro rfl
    exact absurd h (by decide)
  · rintro rfl
    exact absurd h (by decide)

theorem ne_quote_of_isWordChar {c : Char} (h : Json.Lexer.isWordChar c = true) :
    c ≠ '"' ∧ c ≠ '\'' := by
  constructor
  · rintro rfl
    exact absurd h (by decide)
  · rintro rfl
    exact absurd h (by decide)

/-- What JSON allows outside of strings is a quote or stays outside. -/
theorem outside_step {c : Char} {state next : Json.Lexer.State} {out : List Token}
    (h : Outside state) (hstep : Json.Lexer.step c state = some (out, next)) :
    (c = '"' ∧ next = .string []) ∨ (c ≠ '"' ∧ c ≠ '\'' ∧ Outside next) := by
  cases state with
  | string | escape | code | surrogate | surrogateEscape => cases h
  | between => exact outside_of_start hstep
  | number text =>
      rw [Json.Lexer.step] at hstep
      split at hstep
      · next hc =>
        cases hstep
        exact Or.inr ⟨(ne_quote_of_isNumberChar hc).1, (ne_quote_of_isNumberChar hc).2, trivial⟩
      · obtain ⟨n, -, hstep⟩ := Option.bind_eq_some_iff.1 hstep
        obtain ⟨⟨out, next⟩, hc, heq⟩ := Option.map_eq_some_iff.1 hstep
        cases heq
        exact outside_of_start hc
  | word text =>
      rw [Json.Lexer.step] at hstep
      split at hstep
      · next hc =>
        cases hstep
        exact Or.inr ⟨(ne_quote_of_isWordChar hc).1, (ne_quote_of_isWordChar hc).2, trivial⟩
      · obtain ⟨w, -, hstep⟩ := Option.bind_eq_some_iff.1 hstep
        obtain ⟨⟨out, next⟩, hc, heq⟩ := Option.map_eq_some_iff.1 hstep
        cases heq
        exact outside_of_start hc

theorem outside_start {c : Char} (hdouble : c ≠ '"') (hsingle : c ≠ '\'') :
    (start c).2.Outside := by
  unfold start
  rw [if_neg (not_or.2 ⟨hsingle, hdouble⟩)]
  split
  · trivial
  · split <;> trivial

theorem State.Outside.step {c : Char} {state : State} (h : state.Outside) (hdouble : c ≠ '"')
    (hsingle : c ≠ '\'') : (step c state).2.Outside := by
  have hstart := outside_start hdouble hsingle
  cases state with
  | string | escape => cases h
  | between => exact hstart
  | number text =>
      rw [Literal.step]
      split
      · trivial
      · exact hstart
  | word text =>
      rw [Literal.step]
      split
      · trivial
      · exact hstart

theorem State.Outside.step_quote {state : State} (h : state.Outside) :
    (Literal.step '"' state).2 = .string '"' [] := by
  cases state with
  | string | escape => cases h
  | between => rfl
  | number text =>
      rw [Literal.step, continuesNumber_of_isBreak (by decide)]
      rfl
  | word text => rfl

/-! ## Splitting a text -/

/-- The two machines stand at the same place of a text: outside of strings, or inside of one. -/
inductive Abreast : Json.Lexer.State → State → Prop where
  | outside {state : Json.Lexer.State} {other : State} :
      Outside state → other.Outside → Abreast state other
  | inside {state : Json.Lexer.State} {other : State} : Inside state other → Abreast state other

theorem Abreast.step {c : Char} {state next : Json.Lexer.State} {other : State}
    {out : List Token} (h : Abreast state other)
    (hstep : Json.Lexer.step c state = some (out, next)) :
    Abreast next (Literal.step c other).2 := by
  cases h with
  | outside hstate hother =>
      rcases outside_step hstate hstep with ⟨rfl, rfl⟩ | ⟨hdouble, hsingle, hnext⟩
      · rw [hother.step_quote]
        exact .inside .string
      · exact .outside hnext (hother.step hdouble hsingle)
  | inside h =>
      rcases inside_step h hstep with ⟨rfl, ⟨x, y, rfl, rfl⟩, rfl⟩ | ⟨-, -, hnext⟩
      · exact .outside trivial trivial
      · exact .inside hnext

/-- Where a loose literal may end, JSON is outside of strings. -/
theorem Abreast.outside_of_finish {state : Json.Lexer.State} {other : State} {A : List Lexeme}
    (h : Abreast state other) (hfinish : finish other = some A) : Outside state := by
  cases h with
  | outside hstate => exact hstate
  | inside h => cases h <;> cases hfinish

/-- Outside of strings, what goes on with a break could have ended before it. -/
theorem finish_of_runFrom {state : Json.Lexer.State} {t : List Char} {T : List Token}
    (h : Outside state) (hrun : Json.Lexer.runFrom state t = some T) (ht : StartsWithBreak t) :
    ∃ out, Json.Lexer.finish state = some out := by
  cases t with
  | nil => exact ⟨T, hrun⟩
  | cons c t =>
      have hc : isBreak c = true := ht c rfl
      rw [Json.Lexer.runFrom] at hrun
      obtain ⟨next, hstep, -⟩ := Option.bind_eq_some_iff.1 hrun
      cases state with
      | string | escape | code | surrogate | surrogateEscape => cases h
      | between => exact ⟨[], rfl⟩
      | number text =>
          rw [Json.Lexer.step, Json.Lexer.isNumberChar_of_isBreak hc, if_neg Bool.false_ne_true]
            at hstep
          obtain ⟨n, hn, -⟩ := Option.bind_eq_some_iff.1 hstep
          exact ⟨[.number n], by rw [Json.Lexer.finish, hn]; rfl⟩
      | word text =>
          rw [Json.Lexer.step, Json.Lexer.isWordChar_of_isBreak hc, if_neg Bool.false_ne_true]
            at hstep
          obtain ⟨w, hw, -⟩ := Option.bind_eq_some_iff.1 hstep
          exact ⟨[w], by rw [Json.Lexer.finish, hw]; rfl⟩

theorem runFrom_split {state : Json.Lexer.State} {other : State} {s t : List Char}
    {T : List Token} {A : List Lexeme} (habreast : Abreast state other)
    (h : Json.Lexer.runFrom state (s ++ t) = some T) (hs : lexemesFrom other s = some A)
    (ht : StartsWithBreak t) :
    ∃ U V, Json.Lexer.runFrom state s = some U ∧ tokenize t = some V ∧ T = U ++ V := by
  induction s generalizing state other T A with
  | nil =>
      -- the part is over, and a number or word that it ends in is over too
      obtain ⟨out, hfinish⟩ := finish_of_runFrom (habreast.outside_of_finish hs) h ht
      rw [List.nil_append, Json.Lexer.runFrom_of_finish hfinish ht] at h
      obtain ⟨V, hV, rfl⟩ := Option.map_eq_some_iff.1 h
      exact ⟨out, V, hfinish, hV, rfl⟩
  | cons c s ih =>
      rw [List.cons_append, Json.Lexer.runFrom] at h
      obtain ⟨⟨out, next⟩, hstep, hrest⟩ := Option.bind_eq_some_iff.1 h
      obtain ⟨T, hT, rfl⟩ := Option.map_eq_some_iff.1 hrest
      rw [lexemesFrom_cons] at hs
      obtain ⟨A, hA, rfl⟩ := Option.map_eq_some_iff.1 hs
      obtain ⟨U, V, hU, hV, rfl⟩ := ih (habreast.step hstep) hT hA
      refine ⟨out ++ U, V, ?_, hV, (List.append_assoc _ _ _).symm⟩
      rw [Json.Lexer.runFrom, hstep, Option.bind_some]
      dsimp only
      rw [hU, Option.map_some]

/-- **A part that can be read loosely** is JSON, if it stands before a break in JSON. -/
theorem tokenize_split {s t : List Char} {T : List Token} {A : List Lexeme}
    (h : tokenize (s ++ t) = some T) (hs : lexemes? s = some A) (ht : StartsWithBreak t) :
    ∃ U V, tokenize s = some U ∧ tokenize t = some V ∧ T = U ++ V := by
  have hbetween : Abreast .between .between := .outside trivial trivial
  exact runFrom_split hbetween h hs ht

/-! ## Strings -/

/-- What stands between the quotes of a string of JSON, with what it says as JSON and what it says
as a loose literal. -/
structure Body (body x y : List Char) : Prop where
  strict : Json.Lexer.advance (.string []) body = some ([], .string x.reverse)
  loose : advance (.string '"' []) body = ([], .string '"' y.reverse)

theorem inside_split {state : Json.Lexer.State} {other : State} {s : List Char} {T : List Token}
    (hinside : Inside state other) (h : Json.Lexer.runFrom state s = some T) :
    ∃ body rest x y U, s = body ++ '"' :: rest ∧
      Json.Lexer.advance state body = some ([], .string x) ∧
      advance other body = ([], .string '"' y) ∧ tokenize rest = some U ∧
      T = .string (String.ofList x.reverse) :: U := by
  induction s generalizing state other T with
  | nil => cases hinside <;> cases h
  | cons c s ih =>
      rw [Json.Lexer.runFrom] at h
      obtain ⟨⟨out, next⟩, hstep, hrest⟩ := Option.bind_eq_some_iff.1 h
      obtain ⟨T, hT, rfl⟩ := Option.map_eq_some_iff.1 hrest
      -- the string ends here, or both machines read on inside of it
      rcases inside_step hinside hstep with ⟨rfl, ⟨x, y, rfl, rfl⟩, rfl⟩ | ⟨rfl, hout, hnext⟩
      · rw [Json.Lexer.step, if_pos rfl] at hstep
        cases hstep
        exact ⟨[], s, x, y, T, rfl, rfl, rfl, hT, rfl⟩
      · obtain ⟨body, rest, x, y, U, rfl, hstrict, hloose, hU, rfl⟩ := ih hnext hT
        refine ⟨c :: body, rest, x, y, U, rfl, ?_, ?_, hU, rfl⟩
        · rw [Json.Lexer.advance, hstep, Option.bind_some]
          dsimp only
          rw [hstrict, Option.map_some]
          rfl
        · rw [advance]
          dsimp only
          rw [hloose, hout]
          rfl

/-- **A string of JSON** has a content in either reading. -/
theorem string_split {s : List Char} {T : List Token} (h : tokenize ('"' :: s) = some T) :
    ∃ body rest x y U, s = body ++ '"' :: rest ∧ Body body x y ∧ tokenize rest = some U ∧
      T = .string (String.ofList x) :: U := by
  have hstart : Json.Lexer.start '"' = some ([], .string []) := rfl
  rw [tokenize, Json.Lexer.runFrom, Json.Lexer.step, hstart, Option.bind_some] at h
  obtain ⟨T, hT, rfl⟩ := Option.map_eq_some_iff.1 h
  obtain ⟨body, rest, x, y, U, rfl, hstrict, hloose, hU, rfl⟩ := inside_split .string hT
  refine ⟨body, rest, x.reverse, y.reverse, U, rfl, ⟨?_, ?_⟩, hU, rfl⟩
  · rw [hstrict, List.reverse_reverse]
  · rw [hloose, List.reverse_reverse]

end Switchboard.Literal
