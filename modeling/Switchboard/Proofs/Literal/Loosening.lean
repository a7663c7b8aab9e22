import Switchboard.Proofs.Json.Control
import Switchboard.Proofs.Literal.Lexemes
import Switchboard.Proofs.Trimming

/-!
# Texts that are loosened

A literal is trimmed before it is loosened. Where the blanks at its ends are those of JSON this
makes no difference (`loosen?_bind_tokenize`), and it is more convenient not to trim.

A text that can be read after it was loosened does not begin with a closing bracket and does not end
in a comma. So it may be put beside others, by `loosenLexemes?_append`.
-/

namespace Switchboard.Literal

open Json (Token tokenize ofTokens? parse?)
open Json.Reader (run run_append run_cons expected_of_comma)

/-- The JSON text that a loose spelling stands for, blanks at its ends included. -/
def loosenAll? (s : List Char) : Option (List Char) := (lexemes? s).bind loosenLexemes?

/-- The blanks at the two ends of a text are those of JSON. -/
def BlankEnds (s : List Char) : Prop :=
  ∃ a b, s = a ++ Text.trim s ++ b ∧ a.all Json.Lexer.isBlank = true ∧
    b.all Json.Lexer.isBlank = true

theorem all_textIsBlank {b : List Char} (hb : b.all Json.Lexer.isBlank = true) :
    b.all Text.isBlank = true :=
  List.all_eq_true.2 fun c hc =>
    Json.Lexer.textIsBlank_of_isBlank (List.all_eq_true.1 hb c hc)

theorem endsInComma_blanks {b : List Char} (hb : b.all Text.isBlank = true) :
    endsInComma (b.map .mark) = false := by
  induction b with
  | nil => rfl
  | cons c b ih =>
      rw [List.all_cons, Bool.and_eq_true] at hb
      have hc : (Lexeme.mark c == .mark ',') = false := by
        rw [beq_eq_false_iff_ne]
        intro h
        rw [Lexeme.mark.inj h] at hb
        exact absurd hb.1 (by decide)
      rw [List.map_cons, endsInComma, ih hb.2, hc]
      rfl

theorem closes_of_textIsBlank {c : Char} (h : Text.isBlank c = true) : closes c = false := by
  have hne : ∀ d : Char, Text.isBlank d = false → (c == d) = false := fun d hd =>
    beq_eq_false_iff_ne.2 (Json.Lexer.ne_of_textIsBlank h hd)
  rw [closes, hne _ (by decide), hne _ (by decide), hne _ (by decide)]
  rfl

theorem closesNext_blanks {b : List Char} (hb : b.all Text.isBlank = true) :
    closesNext (b.map .mark) = false := by
  induction b with
  | nil => rfl
  | cons c b ih =>
      rw [List.all_cons, Bool.and_eq_true] at hb
      rw [List.map_cons, closesNext, ih hb.2, closes_of_textIsBlank hb.1, Bool.and_false]
      rfl

/-- Blanks at the ends stay where they are. -/
theorem loosenAll?_blanks {a b : List Char} (ha : a.all Json.Lexer.isBlank = true)
    (hb : b.all Json.Lexer.isBlank = true) (s : List Char) :
    loosenAll? (a ++ s ++ b) = (loosenAll? s).map fun t => a ++ t ++ b := by
  have ha' := all_textIsBlank ha
  have hb' := all_textIsBlank hb
  unfold loosenAll?
  rw [List.append_assoc, lexemes?_marks (all_isMark ha), lexemes?_append_blanks s hb]
  cases lexemes? s with
  | none => rfl
  | some A =>
      rw [Option.map_some, Option.map_some, Option.bind_some, Option.bind_some,
        loosenLexemes?_append (Or.inl (endsInComma_blanks ha')),
        loosenLexemes?_append (Or.inr (closesNext_blanks hb')), loosenLexemes?_blanks ha',
        loosenLexemes?_blanks hb', Option.bind_some]
      cases loosenLexemes? A with
      | none => rfl
      | some t =>
          rw [Option.bind_some, Option.map_some, Option.map_some, Option.map_some,
            List.append_assoc]

theorem dropWhile_of_head {s : List Char} (h : ∀ c ∈ s.head?, Text.isBlank c = false) :
    s.dropWhile Text.isBlank = s := by
  cases s with
  | nil => rfl
  | cons c s => exact List.dropWhile_cons_of_neg (by rw [h c rfl]; exact Bool.false_ne_true)

/-- A text without blanks at its ends is not changed by trimming. -/
theorem trim_eq_self {s : List Char} (hhead : ∀ c ∈ s.head?, Text.isBlank c = false)
    (hlast : ∀ c ∈ s.getLast?, Text.isBlank c = false) : Text.trim s = s := by
  have hend : s.reverse.dropWhile Text.isBlank = s.reverse :=
    dropWhile_of_head (by rwa [List.head?_reverse])
  rw [Text.trim, dropWhile_of_head hhead, Text.trimEnd, hend, List.reverse_reverse]

theorem trim_of_ends {c d : Char} (hc : Text.isBlank c = false) (hd : Text.isBlank d = false)
    (s : List Char) : Text.trim (c :: (s ++ [d])) = c :: (s ++ [d]) := by
  refine trim_eq_self ?_ ?_
  · intro x hx
    rwa [← Option.some.inj hx]
  · intro x hx
    rw [← List.cons_append, List.getLast?_concat] at hx
    rwa [← Option.some.inj hx]

theorem trimEnd_append {b : List Char} (hb : b.all Text.isBlank = true) (s : List Char) :
    Text.trimEnd (s ++ b) = Text.trimEnd s := by
  have hdrop : (b.reverse ++ s.reverse).dropWhile Text.isBlank
      = s.reverse.dropWhile Text.isBlank :=
    List.dropWhile_append_of_pos fun c hc => List.all_eq_true.1 hb c (List.mem_reverse.1 hc)
  rw [Text.trimEnd, List.reverse_append, hdrop, Text.trimEnd]

/-- Trimming takes the blanks off that were put around a text. -/
theorem trim_padded {a b : List Char} (ha : a.all Text.isBlank = true)
    (hb : b.all Text.isBlank = true) (s : List Char) :
    Text.trim (a ++ s ++ b) = Text.trim s := by
  have hstart : (a ++ (s ++ b)).dropWhile Text.isBlank = (s ++ b).dropWhile Text.isBlank :=
    List.dropWhile_append_of_pos (List.all_eq_true.1 ha)
  rw [Text.trim, Text.trim, List.append_assoc, hstart, List.dropWhile_append]
  cases hs : s.dropWhile Text.isBlank with
  | nil =>
      have hblank : (b ++ []).dropWhile Text.isBlank = [] :=
        List.dropWhile_append_of_pos (List.all_eq_true.1 hb)
      rw [List.append_nil] at hblank
      exact congrArg Text.trimEnd hblank
  | cons c rest => exact trimEnd_append hb (c :: rest)

theorem blankEnds_of_trim {s : List Char} (h : Text.trim s = s) : BlankEnds s :=
  ⟨[], [], by rw [h, List.append_nil]; rfl, rfl, rfl⟩

theorem blankEnds_padded {a s b : List Char} (ha : a.all Json.Lexer.isBlank = true)
    (hs : BlankEnds s) (hb : b.all Json.Lexer.isBlank = true) : BlankEnds (a ++ s ++ b) := by
  obtain ⟨a', b', heq, ha', hb'⟩ := hs
  refine ⟨a ++ a', b' ++ b, ?_, ?_, ?_⟩
  · rw [trim_padded (all_textIsBlank ha) (all_textIsBlank hb)]
    nth_rewrite 1 [heq]
    simp only [List.append_assoc]
  · rw [List.all_append, ha, ha']
    rfl
  · rw [List.all_append, hb, hb']
    rfl

/-- At the ends of a text of JSON there are no other blanks than those of JSON. -/
theorem blankEnds_of_tokenize {s : List Char} {T : List Token} (h : tokenize s = some T) :
    BlankEnds s := by
  obtain ⟨a, b, hs, ha, hb⟩ := Text.exists_padding s
  refine ⟨a, b, hs, ?_, ?_⟩
  · rw [hs, List.append_assoc] at h
    exact (Json.Lexer.isBlank_of_tokenize ha h).1
  · rw [hs] at h
    exact Json.Lexer.isBlank_of_tokenize_append hb h

/-- **Trimming makes no difference** where the blanks at the ends are those of JSON. -/
theorem loosen?_bind_tokenize {s : List Char} (h : BlankEnds s) :
    (loosen? s).bind tokenize = (loosenAll? s).bind tokenize := by
  obtain ⟨a, b, hs, ha, hb⟩ := h
  have hall : loosenAll? s = (loosen? s).map fun t => a ++ t ++ b := by
    rw [loosen?_eq, ← loosenAll?]
    exact (congrArg loosenAll? hs).trans (loosenAll?_blanks ha hb (Text.trim s))
  rw [hall]
  cases loosen? s with
  | none => rfl
  | some t =>
      rw [Option.map_some, Option.bind_some, Option.bind_some,
        Json.Lexer.tokenize_append_blanks _ hb, Json.Lexer.tokenize_blanks ha]

theorem loosen?_bind_parse? {s : List Char} (h : BlankEnds s) :
    (loosen? s).bind parse? = (loosenAll? s).bind parse? := by
  have hparse : ∀ t : Option (List Char), t.bind parse? = (t.bind tokenize).bind ofTokens? := by
    intro t
    rw [Option.bind_assoc]
    rfl
  rw [hparse, hparse, loosen?_bind_tokenize h]

/-! ## The two ways to a value -/

/-- The value of a text that is loosened, whether it is JSON or not. -/
def looseValue? (s : List Char) : Option Json := (loosen? s).bind parse?

theorem parse_eq_ok_iff {literal : String} {v : Json} :
    parse literal = .ok v ↔ value? literal.toList = some v := by
  unfold parse
  cases value? literal.toList with
  | none => exact iff_of_false (fun h => by cases h) (fun h => by cases h)
  | some w =>
      constructor
      · intro h
        cases h
        rfl
      · intro h
        cases h
        rfl

theorem value?_cases {s : List Char} {v : Json} (h : value? s = some v) :
    parse? s = some v ∨ parse? s = none ∧ looseValue? s = some v := by
  unfold value? at h
  cases hparse : parse? s with
  | some w =>
      rw [hparse, Option.some_or] at h
      exact Or.inl h
  | none =>
      rw [hparse, Option.none_or] at h
      exact Or.inr ⟨rfl, h⟩

theorem looseValue?_eq {s : List Char} (hs : BlankEnds s) :
    looseValue? s = (loosenAll? s).bind parse? := loosen?_bind_parse? hs

/-! ## What is read begins and ends well -/

/-- Lexemes that are not only blanks, do not begin with a closing bracket and do not end in a
comma. -/
structure Apart (A : List Lexeme) : Prop where
  blank : A.all Lexeme.isBlank = false
  closesNext : closesNext A = false
  endsInComma : endsInComma A = false

theorem ofTokens?_of_closes {t : Token} {T : List Token} (ht : t.closes = true) :
    ofTokens? (t :: T) = none := by
  cases t with
  | closeArray | closeObject => rfl
  | openArray | openObject | comma | colon | null | bool _ | number _ | string _ => cases ht

/-- The marks of JSON are marks here. -/
theorem facts_of_mark {c : Char} {m : Token} (h : Json.Lexer.mark? c = some m) :
    isMark c = true ∧ c ≠ '(' ∧ c ≠ ')' ∧ Text.isBlank c = false ∧ closes c = m.closes ∧
      (c = ',' → m = .comma) := by
  rcases Json.Lexer.mark?_cases h with rfl | rfl | rfl | rfl | rfl | rfl <;> cases h <;> decide

theorem mark?_of_closes {c : Char} (h : closes c = true) :
    ∃ m, Json.Lexer.mark? (markText c) = some m ∧ m.closes = true ∧ c ≠ ',' := by
  simp only [closes, Bool.or_eq_true, beq_iff_eq] at h
  rcases h with (rfl | rfl) | rfl
  · exact ⟨.closeArray, rfl, rfl, by decide⟩
  · exact ⟨.closeObject, rfl, rfl, by decide⟩
  · exact ⟨.closeArray, rfl, rfl, by decide⟩

theorem parse?_of_closesNext {A : List Lexeme} {t : List Char} (h : closesNext A = true)
    (ht : loosenLexemes? A = some t) : parse? t = none := by
  induction A generalizing t with
  | nil => cases h
  | cons lexeme A ih =>
      cases lexeme with
      | string _ | number _ | word _ => cases h
      | mark c =>
          rw [Literal.closesNext, Bool.or_eq_true, Bool.and_eq_true] at h
          rcases h with h | ⟨hc, hA⟩
          · -- the bracket is the first token
            obtain ⟨m, hm, hcloses, hne⟩ := mark?_of_closes h
            rw [loosenLexemes?_cons (Or.inl fun h => hne (Lexeme.mark.inj h)), Lexeme.text?,
              Option.bind_some] at ht
            obtain ⟨rest, -, rfl⟩ := Option.map_eq_some_iff.1 ht
            rw [parse?, List.singleton_append, Json.Lexer.tokenize_mark hm]
            cases tokenize rest with
            | none => rfl
            | some T => exact ofTokens?_of_closes hcloses
          · rw [loosenLexemes?_blank hc] at ht
            obtain ⟨rest, hrest, rfl⟩ := Option.map_eq_some_iff.1 ht
            have hparse := ih hA hrest
            unfold parse? at hparse ⊢
            -- a blank that JSON does not know makes the text none at once
            cases hblank : Json.Lexer.isBlank c with
            | true => rw [Json.Lexer.tokenize_blank hblank, hparse]
            | false => rw [Json.Lexer.tokenize_textBlank hc hblank, Option.bind_none]

theorem ofTokens?_of_comma {T : List Token} (h : T.getLast? = some .comma) :
    ofTokens? T = none := by
  obtain ⟨U, rfl⟩ := List.getLast?_eq_some_iff.1 h
  cases hv : ofTokens? (U ++ [.comma]) with
  | none => rfl
  | some v =>
      obtain ⟨stack, hrun⟩ := Json.ofTokens?_eq_some_iff.1 hv
      rw [run_append] at hrun
      obtain ⟨state, -, hlast⟩ := Option.bind_eq_some_iff.1 hrun
      obtain ⟨last, hstep, hlast⟩ := Json.Reader.run_cons_eq_some_iff.1 hlast
      cases Option.some.inj hlast
      rcases expected_of_comma hstep with h | h
      · cases h
      · cases h

theorem blanks_of_all {A : List Lexeme} (h : A.all Lexeme.isBlank = true) :
    ∃ b : List Char, A = b.map .mark ∧ b.all Text.isBlank = true := by
  induction A with
  | nil => exact ⟨[], rfl, rfl⟩
  | cons lexeme A ih =>
      rw [List.all_cons, Bool.and_eq_true] at h
      obtain ⟨b, rfl, hb⟩ := ih h.2
      cases lexeme with
      | string _ | number _ | word _ => exact absurd h.1 Bool.false_ne_true
      | mark c => exact ⟨c :: b, rfl, by rw [List.all_cons, hb, Bool.and_true]; exact h.1⟩

theorem parse?_of_isBlank {A : List Lexeme} {t : List Char} (h : A.all Lexeme.isBlank = true)
    (ht : loosenLexemes? A = some t) : parse? t = none := by
  obtain ⟨b, rfl, hb⟩ := blanks_of_all h
  rw [loosenLexemes?_blanks hb] at ht
  rw [← Option.some.inj ht, parse?]
  cases htokens : tokenize b with
  | none => rfl
  | some T =>
      rw [Json.Lexer.tokenize_of_textBlanks hb htokens]
      rfl

theorem split_of_endsInComma {A : List Lexeme} (h : endsInComma A = true) :
    ∃ (B : List Lexeme) (b : List Char), A = B ++ .mark ',' :: b.map .mark ∧
      b.all Text.isBlank = true := by
  induction A with
  | nil => cases h
  | cons lexeme A ih =>
      rw [Literal.endsInComma, Bool.or_eq_true, Bool.and_eq_true, beq_iff_eq] at h
      rcases h with h | ⟨rfl, hblank⟩
      · obtain ⟨B, b, rfl, hb⟩ := ih h
        exact ⟨lexeme :: B, b, rfl, hb⟩
      · obtain ⟨b, rfl, hb⟩ := blanks_of_all hblank
        exact ⟨[], b, rfl, hb⟩

theorem parse?_of_endsInComma {A : List Lexeme} {t : List Char} (h : endsInComma A = true)
    (ht : loosenLexemes? A = some t) : parse? t = none := by
  obtain ⟨B, b, rfl, hb⟩ := split_of_endsInComma h
  -- the comma stays, as only blanks come after it
  have hcloses : closesNext (.mark ',' :: b.map .mark) = false := by
    rw [Literal.closesNext, closesNext_blanks hb, Bool.and_false]
    rfl
  rw [loosenLexemes?_append (Or.inr hcloses),
    loosenLexemes?_mark (by decide) (by decide) (Or.inr (closesNext_blanks hb)),
    loosenLexemes?_blanks hb] at ht
  obtain ⟨u, -, hu⟩ := Option.bind_eq_some_iff.1 ht
  have htext : u ++ ',' :: b = t := Option.some.inj hu
  rw [← htext, parse?]
  cases htokens : tokenize (u ++ ',' :: b) with
  | none => rfl
  | some T => exact ofTokens?_of_comma (Json.Lexer.tokenize_append_comma hb htokens)

/-- **What is read after it was loosened** may stand beside other lexemes. -/
theorem apart_of_parse? {A : List Lexeme} {t : List Char} {v : Json}
    (ht : loosenLexemes? A = some t) (hv : parse? t = some v) : Apart A := by
  constructor
  · rw [← Bool.not_eq_true]
    intro h
    rw [parse?_of_isBlank h ht] at hv
    cases hv
  · rw [← Bool.not_eq_true]
    intro h
    rw [parse?_of_closesNext h ht] at hv
    cases hv
  · rw [← Bool.not_eq_true]
    intro h
    rw [parse?_of_endsInComma h ht] at hv
    cases hv

end Switchboard.Literal
