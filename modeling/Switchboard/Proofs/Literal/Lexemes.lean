import Switchboard.Literal
import Switchboard.Proofs.Json.Atoms

/-!
# Loose literals, piece by piece

The reader of lexemes, like that of JSON tokens, reads a text in one go; here it is read part by
part, with the same breaks between the parts. `lexemes?_append` is for every text whose strings end.

What a list of lexemes is rewritten to is the rewritten parts one after the other
(`loosenLexemes?_append`), except that a comma at the very end of a part is dropped when the next
part begins with a closing bracket. `endsInComma` and `closesNext` name the two.
-/

namespace Switchboard.Literal

open Json (NumberParts)
open Json.Lexer (StartsWithBreak isBreak)

/-! ## Breaks and marks -/

theorem continuesWord_of_isBreak {c : Char} (h : isBreak c = true) : continuesWord c = false := by
  simp only [isBreak, Bool.not_eq_true', Bool.or_eq_false_iff] at h
  simp only [continuesWord, h.1.1.1.1, h.1.1.1.2, Bool.or_false]

theorem continuesNumber_of_isBreak {c : Char} (h : isBreak c = true) (text : List Char) :
    continuesNumber text c = false := by
  simp only [isBreak, Bool.not_eq_true', Bool.or_eq_false_iff] at h
  simp only [continuesNumber, h.1.1.1.1, h.1.1.1.2, h.1.1.2, h.1.2, h.2, Bool.or_false,
    Bool.false_and]

/-- Whether a character is a lexeme by itself. -/
def isMark (c : Char) : Bool := c != '\'' && c != '"' && !c.isDigit && !c.isAlpha

theorem start_of_isMark {c : Char} (h : isMark c = true) : start c = ([.mark c], .between) := by
  simp only [isMark, Bool.and_eq_true, bne_iff_ne, Bool.not_eq_true'] at h
  obtain ⟨⟨⟨hsingle, hdouble⟩, hdigit⟩, halpha⟩ := h
  unfold start
  rw [if_neg (not_or.2 ⟨hsingle, hdouble⟩), hdigit, halpha, if_neg Bool.false_ne_true,
    if_neg Bool.false_ne_true]

theorem isMark_of_isBlank {c : Char} (h : Json.Lexer.isBlank c = true) : isMark c = true := by
  simp only [Json.Lexer.isBlank, Bool.or_eq_true, beq_iff_eq] at h
  rcases h with ((rfl | rfl) | rfl) | rfl <;> decide

theorem isBlank_of_isNumberChar {c : Char} (h : Json.Lexer.isNumberChar c = true) :
    Text.isBlank c = false := by
  rw [← Bool.not_eq_true]
  intro hblank
  have hbreak := Json.Lexer.isBreak_of_isQuiet (Json.Lexer.isQuiet_of_textIsBlank hblank)
  rw [Json.Lexer.isNumberChar_of_isBreak hbreak] at h
  cases h

/-! ## Reading a part -/

/-- Reads a part of a text: the lexemes that end in it and the state after it. -/
def advance : State → List Char → List Lexeme × State
  | state, [] => ([], state)
  | state, c :: rest =>
    let (out, state) := step c state
    let (more, state) := advance state rest
    (out ++ more, state)

theorem lexemesFrom_cons (state : State) (c : Char) (t : List Char) :
    lexemesFrom state (c :: t)
      = (lexemesFrom (step c state).2 t).map ((step c state).1 ++ ·) := rfl

/-- A character that ends no lexeme only changes the state. -/
theorem lexemesFrom_of_step {c : Char} {state next : State} (h : step c state = ([], next))
    (t : List Char) : lexemesFrom state (c :: t) = lexemesFrom next t := by
  rw [lexemesFrom_cons, h]
  exact Option.map_id' (x := lexemesFrom next t)

theorem lexemesFrom_append (state : State) (s t : List Char) :
    lexemesFrom state (s ++ t)
      = (lexemesFrom (advance state s).2 t).map ((advance state s).1 ++ ·) := by
  induction s generalizing state with
  | nil => exact (Option.map_id' (x := lexemesFrom state t)).symm
  | cons c s ih =>
      rw [List.cons_append, lexemesFrom_cons, ih, Option.map_map]
      exact congrArg (Option.map · _) (funext fun _ => (List.append_assoc _ _ _).symm)

/-- What comes after a number or a word is read as if it began there. -/
theorem lexemesFrom_of_finish {state : State} {out : List Lexeme} {t : List Char}
    (h : finish state = some out) (ht : StartsWithBreak t) :
    lexemesFrom state t = (lexemes? t).map (out ++ ·) := by
  cases t with
  | nil =>
      rw [lexemesFrom, h, lexemes?, lexemesFrom, finish, Option.map_some, List.append_nil]
  | cons c t =>
      have hc : isBreak c = true := ht c rfl
      cases state with
      | between =>
          cases h
          exact (Option.map_id' (x := lexemes? (c :: t))).symm
      | number text =>
          cases h
          have hstep : step c (.number text)
              = (.number text.reverse :: (start c).1, (start c).2) := by
            rw [step, continuesNumber_of_isBreak hc, if_neg Bool.false_ne_true]
          rw [lexemesFrom_cons, hstep, lexemes?, lexemesFrom_cons, step, Option.map_map]
          rfl
      | word text =>
          cases h
          have hstep : step c (.word text)
              = (.word text.reverse :: (start c).1, (start c).2) := by
            rw [step, continuesWord_of_isBreak hc, if_neg Bool.false_ne_true]
          rw [lexemesFrom_cons, hstep, lexemes?, lexemesFrom_cons, step, Option.map_map]
          rfl
      | string _ _ | escape _ _ => cases h

/-- **Texts with a break between them are read one after the other.** -/
theorem lexemes?_append {s t : List Char} {A : List Lexeme} (h : lexemes? s = some A)
    (ht : StartsWithBreak t) : lexemes? (s ++ t) = (lexemes? t).map (A ++ ·) := by
  have happend := lexemesFrom_append .between s []
  rw [List.append_nil, ← lexemes?, h, eq_comm] at happend
  obtain ⟨after, hafter, rfl⟩ := Option.map_eq_some_iff.1 happend
  rw [lexemes?, lexemesFrom_append, lexemesFrom_of_finish hafter ht, Option.map_map]
  exact congrArg (Option.map · _) (funext fun _ => (List.append_assoc _ _ _).symm)

theorem lexemes?_mark {c : Char} (h : isMark c = true) (t : List Char) :
    lexemes? (c :: t) = (lexemes? t).map (.mark c :: ·) := by
  rw [lexemes?, lexemesFrom_cons, step, start_of_isMark h]
  rfl

theorem lexemes?_marks {a : List Char} (ha : a.all isMark = true) (t : List Char) :
    lexemes? (a ++ t) = (lexemes? t).map (a.map .mark ++ ·) := by
  induction a with
  | nil => exact (Option.map_id' (x := lexemes? t)).symm
  | cons c a ih =>
      rw [List.all_cons, Bool.and_eq_true] at ha
      rw [List.cons_append, lexemes?_mark ha.1, ih ha.2, Option.map_map]
      rfl

theorem lexemes?_of_marks {a : List Char} (ha : a.all isMark = true) :
    lexemes? a = some (a.map .mark) := by
  have h := lexemes?_marks ha []
  rw [List.append_nil] at h
  rw [h, lexemes?, lexemesFrom, finish, Option.map_some, List.append_nil]

/-! ## Blanks at the end -/

/-- The strings that are read end with one of the two quotes. -/
def State.EndsWithQuote : State → Prop
  | .string quote _ => quote = '\'' ∨ quote = '"'
  | .escape quote _ => quote = '\'' ∨ quote = '"'
  | _ => True

theorem endsWithQuote_start (c : Char) : (start c).2.EndsWithQuote := by
  unfold start
  split
  · next hquote => exact hquote
  · split
    · trivial
    · split <;> trivial

theorem endsWithQuote_step {state : State} (h : state.EndsWithQuote) (c : Char) :
    (step c state).2.EndsWithQuote := by
  cases state with
  | between => exact endsWithQuote_start c
  | string quote content =>
      rw [step]
      split
      · exact h
      · split
        · trivial
        · exact h
  | escape quote content => exact h
  | number text =>
      rw [step]
      split
      · trivial
      · exact endsWithQuote_start c
  | word text =>
      rw [step]
      split
      · trivial
      · exact endsWithQuote_start c

theorem endsWithQuote_advance {state : State} (h : state.EndsWithQuote) (s : List Char) :
    (advance state s).2.EndsWithQuote := by
  induction s generalizing state with
  | nil => exact h
  | cons c s ih => exact ih (endsWithQuote_step h c)

/-- Inside of a string a character that is no quote stays inside. -/
theorem finish_step_of_isMark {c : Char} {state : State} (hc : isMark c = true)
    (hstate : state.EndsWithQuote) (h : finish state = none) :
    finish (step c state).2 = none := by
  cases state with
  | between | number text | word text => cases h
  | escape quote content => rfl
  | string quote content =>
      -- only its own quote would end the string, and that is no mark
      have hne : c ≠ quote := by
        rintro rfl
        rcases hstate with rfl | rfl
        · exact absurd hc (by decide)
        · exact absurd hc (by decide)
      rw [step]
      by_cases hbackslash : c = '\\'
      · rw [if_pos hbackslash]
        rfl
      · rw [if_neg hbackslash, if_neg hne]
        rfl

/-- A text in which a string has no end is not mended by characters that are no quotes. -/
theorem lexemesFrom_eq_none {state : State} {b : List Char} (hb : b.all isMark = true)
    (hstate : state.EndsWithQuote) (h : finish state = none) : lexemesFrom state b = none := by
  induction b generalizing state with
  | nil => exact h
  | cons c b ih =>
      rw [List.all_cons, Bool.and_eq_true] at hb
      rw [lexemesFrom_cons,
        ih hb.2 (endsWithQuote_step hstate c) (finish_step_of_isMark hb.1 hstate h)]
      rfl

theorem all_isMark {b : List Char} (hb : b.all Json.Lexer.isBlank = true) :
    b.all isMark = true :=
  List.all_eq_true.2 fun c hc => isMark_of_isBlank (List.all_eq_true.1 hb c hc)

/-- Blanks after a text are marks after its lexemes, if it has any. -/
theorem lexemes?_append_blanks (s : List Char) {b : List Char}
    (hb : b.all Json.Lexer.isBlank = true) :
    lexemes? (s ++ b) = (lexemes? s).map (· ++ b.map .mark) := by
  have hmarks := all_isMark hb
  cases h : lexemes? s with
  | some A =>
      rw [lexemes?_append h (Json.Lexer.startsWithBreak_of_blanks hb), lexemes?_of_marks hmarks]
      rfl
  | none =>
      have hbetween : State.between.EndsWithQuote := trivial
      have hsplit := lexemesFrom_append .between s []
      rw [List.append_nil, ← lexemes?, h, eq_comm, Option.map_eq_none_iff] at hsplit
      rw [lexemes?, lexemesFrom_append,
        lexemesFrom_eq_none hmarks (endsWithQuote_advance hbetween s) hsplit]
      rfl

/-! ## Numbers and words of JSON -/

theorem isHexadecimal_of_numberChars {text : List Char}
    (h : text.all Json.Lexer.isNumberChar = true) : isHexadecimal text = false := by
  have hmem : ∀ c ∈ text.reverse.take 2, Json.Lexer.isNumberChar c = true := fun c hc =>
    List.all_eq_true.1 h c (List.mem_reverse.1 (List.mem_of_mem_take hc))
  unfold isHexadecimal
  rw [Bool.or_eq_false_iff, beq_eq_false_iff_ne, beq_eq_false_iff_ne]
  constructor
  · intro heq
    exact absurd (hmem 'x' (by rw [heq]; decide)) (by decide)
  · intro heq
    exact absurd (hmem 'X' (by rw [heq]; decide)) (by decide)

/-- Characters that belong to a number whatever it began with are gathered. -/
theorem lexemesFrom_gathered {digits : List Char}
    (h : ∀ c ∈ digits, ∀ text, continuesNumber text c = true) (text t : List Char) :
    lexemesFrom (.number text) (digits ++ t)
      = lexemesFrom (.number (digits.reverse ++ text)) t := by
  induction digits generalizing text with
  | nil => rfl
  | cons c digits ih =>
      have hstep : step c (.number text) = ([], .number (c :: text)) :=
        if_pos (h c List.mem_cons_self text)
      rw [List.cons_append, lexemesFrom_of_step hstep,
        ih (fun d hd => h d (List.mem_cons_of_mem c hd)), List.reverse_cons, List.append_assoc]
      rfl

theorem lexemesFrom_continuing {digits : List Char}
    (h : ∀ c ∈ digits, c.isAlphanum = true ∨ c = '.') (text t : List Char) :
    lexemesFrom (.number text) (digits ++ t)
      = lexemesFrom (.number (digits.reverse ++ text)) t := by
  refine lexemesFrom_gathered (fun c hc text => ?_) text t
  rcases h c hc with halnum | rfl
  · simp only [continuesNumber, halnum, Bool.true_or]
  · simp only [continuesNumber, BEq.rfl, Bool.or_true, Bool.true_or]

theorem isAlphanum_of_isDigit {digits : List Char} (h : digits.all Char.isDigit = true) :
    ∀ c ∈ digits, c.isAlphanum = true ∨ c = '.' := by
  intro c hc
  refine Or.inl ?_
  rw [Char.isAlphanum, List.all_eq_true.1 h c hc, Bool.or_true]

/-- A sign belongs to a number right after the mark of its exponent. -/
theorem lexemesFrom_sign {mark c : Char} (hmark : mark = 'e' ∨ mark = 'E') (hc : c = '+' ∨ c = '-')
    {text : List Char} (htext : text.all Json.Lexer.isNumberChar = true) (t : List Char) :
    lexemesFrom (.number (mark :: text)) (c :: t)
      = lexemesFrom (.number (c :: mark :: text)) t := by
  have hall : (mark :: text).all Json.Lexer.isNumberChar = true := by
    rw [List.all_cons, htext]
    rcases hmark with rfl | rfl <;> rfl
  have hcontinues : continuesNumber (mark :: text) c = true := by
    unfold continuesNumber
    rw [isHexadecimal_of_numberChars hall]
    rcases hmark with rfl | rfl <;> rcases hc with rfl | rfl <;> rfl
  have hstep : step c (.number (mark :: text)) = ([], .number (c :: mark :: text)) :=
    if_pos hcontinues
  exact lexemesFrom_of_step hstep t

theorem lexemesFrom_exponent {sign whole fraction exponent : List Char}
    (h : NumberParts sign whole fraction exponent) {text : List Char}
    (htext : text.all Json.Lexer.isNumberChar = true) :
    lexemesFrom (.number text) exponent = some [.number (text.reverse ++ exponent)] := by
  have hend : ∀ text : List Char,
      lexemesFrom (.number text) [] = some [.number text.reverse] := fun _ => rfl
  rcases h.exponent with rfl | ⟨mark, sign, digits, rfl, hmark, hsign, hdigits⟩
  · rw [hend, List.append_nil]
  · have hletter : ∀ c ∈ [mark], c.isAlphanum = true ∨ c = '.' := by
      rintro c hc
      rw [List.mem_singleton.1 hc]
      rcases hmark with rfl | rfl <;> exact Or.inl rfl
    have hfirst := lexemesFrom_continuing hletter text (sign ++ digits)
    have hdigits := fun text => lexemesFrom_continuing (isAlphanum_of_isDigit hdigits) text []
    simp only [List.append_nil] at hdigits
    rw [List.singleton_append, List.reverse_singleton, List.singleton_append] at hfirst
    rw [hfirst]
    rcases hsign with rfl | rfl | rfl
    · rw [List.nil_append, hdigits, hend, List.reverse_append, List.reverse_reverse,
        List.reverse_cons, List.append_assoc]
      rfl
    · rw [List.singleton_append, lexemesFrom_sign hmark (Or.inl rfl) htext, hdigits, hend,
        List.reverse_append, List.reverse_reverse, List.reverse_cons, List.reverse_cons,
        List.append_assoc, List.append_assoc]
      rfl
    · rw [List.singleton_append, lexemesFrom_sign hmark (Or.inr rfl) htext, hdigits, hend,
        List.reverse_append, List.reverse_reverse, List.reverse_cons, List.reverse_cons,
        List.append_assoc, List.append_assoc]
      rfl

/-- **A number without its sign is one lexeme.** -/
theorem lexemes?_unsigned {sign whole fraction exponent : List Char}
    (h : NumberParts sign whole fraction exponent) :
    lexemes? (whole ++ fraction ++ exponent)
      = some [.number (whole ++ fraction ++ exponent)] := by
  obtain ⟨d, digits, rfl⟩ := List.exists_cons_of_ne_nil h.whole_ne_nil
  have hwhole := h.whole
  rw [List.all_cons, Bool.and_eq_true] at hwhole
  have hstart : lexemes? (d :: (digits ++ fraction ++ exponent))
      = lexemesFrom (.number [d]) (digits ++ fraction ++ exponent) := by
    have hne : ¬ (d = '\'' ∨ d = '"') := by
      rintro (rfl | rfl)
      · exact absurd hwhole.1 (by decide)
      · exact absurd hwhole.1 (by decide)
    have hd : start d = ([], .number [d]) := (if_neg hne).trans (if_pos hwhole.1)
    have hstep : step d .between = ([], .number [d]) := hd
    exact lexemesFrom_of_step hstep _
  have hbody : ∀ c ∈ digits ++ fraction, c.isAlphanum = true ∨ c = '.' := by
    intro c hc
    rcases List.mem_append.1 hc with hc | hc
    · exact isAlphanum_of_isDigit hwhole.2 c hc
    · rcases h.fraction with rfl | ⟨ds, rfl, hds⟩
      · cases hc
      · rcases List.mem_cons.1 hc with rfl | hc
        · exact Or.inr rfl
        · exact isAlphanum_of_isDigit hds c hc
  have hall : ((digits ++ fraction).reverse ++ [d]).all Json.Lexer.isNumberChar = true := by
    have hparts := h.all_isNumberChar
    rw [List.append_assoc, List.append_assoc, List.all_append, List.all_append, List.all_append,
      Bool.and_eq_true, Bool.and_eq_true, Bool.and_eq_true, List.all_cons, Bool.and_eq_true]
      at hparts
    rw [List.all_append, List.all_reverse, List.all_append, hparts.2.1.2, hparts.2.2.1,
      List.all_cons, hparts.2.1.1]
    rfl
  rw [List.cons_append, List.cons_append, hstart, lexemesFrom_continuing hbody,
    lexemesFrom_exponent h hall, List.reverse_append, List.reverse_reverse]
  rfl

/-- A number in the spelling of JSON is kept as it is. -/
theorem numberText?_of_numberChars {text : List Char}
    (h : text.all Json.Lexer.isNumberChar = true) : numberText? text = some text := by
  have hfilter : text.filter (· ≠ '_') = text := by
    rw [List.filter_eq_self]
    intro c hc
    rw [decide_eq_true_eq]
    rintro rfl
    exact absurd (List.all_eq_true.1 h _ hc) (by decide)
  have hbase : base? text = none := by
    have hmem : ∀ c, Json.Lexer.isNumberChar c = false → c ∉ text := by
      intro c hc hmem
      exact absurd (List.all_eq_true.1 h c hmem) (by rw [hc]; decide)
    unfold base?
    split
    · exact absurd (List.mem_cons_of_mem _ List.mem_cons_self) (hmem 'x' (by decide))
    · exact absurd (List.mem_cons_of_mem _ List.mem_cons_self) (hmem 'X' (by decide))
    · exact absurd (List.mem_cons_of_mem _ List.mem_cons_self) (hmem 'o' (by decide))
    · exact absurd (List.mem_cons_of_mem _ List.mem_cons_self) (hmem 'O' (by decide))
    · exact absurd (List.mem_cons_of_mem _ List.mem_cons_self) (hmem 'b' (by decide))
    · exact absurd (List.mem_cons_of_mem _ List.mem_cons_self) (hmem 'B' (by decide))
    · rfl
  unfold numberText?
  dsimp only
  rw [hfilter, hbase]

/-- A word of JSON is a word here, but none that has a text. -/
theorem lexemes?_word {s : List Char} {w : Json.Token} (h : Json.Lexer.wordToken? s = some w) :
    lexemes? s = some [.word s] ∧ wordText? s = none := by
  rcases Json.Lexer.wordToken?_cases h with ⟨rfl, -⟩ | ⟨rfl, -⟩ | ⟨rfl, -⟩
  · exact ⟨rfl, rfl⟩
  · exact ⟨rfl, rfl⟩
  · exact ⟨rfl, rfl⟩

/-! ## Strings -/

theorem lexemes?_quote {quote : Char} (h : quote = '\'' ∨ quote = '"') (t : List Char) :
    lexemes? (quote :: t) = lexemesFrom (.string quote []) t := by
  have hstep : step quote .between = ([], .string quote []) := if_pos h
  exact lexemesFrom_of_step hstep t

theorem lexemesFrom_closing {quote : Char} (h : quote = '\'' ∨ quote = '"')
    (content t : List Char) :
    lexemesFrom (.string quote content) (quote :: t)
      = (lexemes? t).map (.string content.reverse :: ·) := by
  have hne : quote ≠ '\\' := by
    rintro rfl
    exact absurd h (by decide)
  have hstep : step quote (.string quote content) = ([.string content.reverse], .between) :=
    (if_neg hne).trans (if_pos rfl)
  rw [lexemesFrom_cons, hstep]
  rfl

/-! ## Commas that are dropped -/

/-- Whether a lexeme is a blank. -/
def Lexeme.isBlank : Lexeme → Bool
  | .mark c => Text.isBlank c
  | _ => false

/-- Whether the last lexeme is a comma, apart from blanks. -/
def endsInComma : List Lexeme → Bool
  | [] => false
  | lexeme :: rest => endsInComma rest || (lexeme == .mark ',' && rest.all Lexeme.isBlank)

theorem closesNext_append (A B : List Lexeme) :
    closesNext (A ++ B) = (closesNext A || (A.all Lexeme.isBlank && closesNext B)) := by
  induction A with
  | nil => rfl
  | cons lexeme A ih =>
      cases lexeme with
      | string _ | number _ | word _ => rfl
      | mark c =>
          rw [List.cons_append, closesNext, closesNext, ih, List.all_cons, Lexeme.isBlank]
          cases closes c <;> cases Text.isBlank c <;> rfl

theorem endsInComma_append (A B : List Lexeme) :
    endsInComma (A ++ B) = (endsInComma B || (endsInComma A && B.all Lexeme.isBlank)) := by
  induction A with
  | nil => exact (Bool.or_false _).symm
  | cons lexeme A ih =>
      rw [List.cons_append, endsInComma, endsInComma, ih, List.all_append]
      cases endsInComma A <;> cases endsInComma B <;> cases lexeme == .mark ',' <;>
        cases A.all Lexeme.isBlank <;> cases B.all Lexeme.isBlank <;> rfl

/-- **Commas are dropped part by part**, unless one part ends in a comma and the next begins with
a closing bracket. -/
theorem dropTrailingCommas_append {A B : List Lexeme}
    (h : endsInComma A = false ∨ closesNext B = false) :
    dropTrailingCommas (A ++ B) = dropTrailingCommas A ++ dropTrailingCommas B := by
  induction A with
  | nil => rfl
  | cons lexeme A ih =>
      have hrest : endsInComma A = false ∨ closesNext B = false := by
        refine h.imp_left fun h => ?_
        rw [endsInComma, Bool.or_eq_false_iff] at h
        exact h.1
      -- whether a comma here is dropped does not depend on what comes after the part
      have hnext : lexeme = .mark ',' → closesNext (A ++ B) = closesNext A := by
        intro hcomma
        rw [closesNext_append]
        rcases h with h | h
        · rw [endsInComma, hcomma, BEq.rfl, Bool.true_and, Bool.or_eq_false_iff] at h
          rw [h.2, Bool.false_and, Bool.or_false]
        · rw [h, Bool.and_false, Bool.or_false]
      rw [List.cons_append, dropTrailingCommas, dropTrailingCommas, ih hrest]
      by_cases hcomma : lexeme = .mark ','
      · rw [hnext hcomma]
        split
        · rfl
        · rfl
      · rw [if_neg (fun h => hcomma h.1), if_neg (fun h => hcomma h.1), List.cons_append]

/-- The JSON text that lexemes stand for, if each of them has one. -/
def texts? (lexemes : List Lexeme) : Option (List Char) :=
  (lexemes.mapM Lexeme.text?).map List.flatten

/-- The JSON text that lexemes stand for, without the commas that are dropped. -/
def loosenLexemes? (lexemes : List Lexeme) : Option (List Char) :=
  texts? (dropTrailingCommas lexemes)

theorem texts?_cons (lexeme : Lexeme) (A : List Lexeme) :
    texts? (lexeme :: A) = lexeme.text?.bind fun s => (texts? A).map (s ++ ·) := by
  unfold texts?
  rw [List.mapM_cons]
  cases lexeme.text? with
  | none => rfl
  | some s =>
      cases A.mapM Lexeme.text? with
      | none => rfl
      | some ss => rfl

theorem texts?_append (A B : List Lexeme) :
    texts? (A ++ B) = (texts? A).bind fun s => (texts? B).map (s ++ ·) := by
  induction A with
  | nil => exact (Option.map_id' (x := texts? B)).symm
  | cons lexeme A ih =>
      rw [List.cons_append, texts?_cons, texts?_cons, ih]
      cases lexeme.text? with
      | none => rfl
      | some s =>
          rw [Option.bind_some, Option.bind_some]
          cases texts? A with
          | none => rfl
          | some a =>
              rw [Option.bind_some, Option.map_some, Option.bind_some, Option.map_map]
              exact congrArg (Option.map · _) (funext fun _ => (List.append_assoc _ _ _).symm)

/-- **Lexemes are loosened part by part.** -/
theorem loosenLexemes?_append {A B : List Lexeme}
    (h : endsInComma A = false ∨ closesNext B = false) :
    loosenLexemes? (A ++ B)
      = (loosenLexemes? A).bind fun s => (loosenLexemes? B).map (s ++ ·) := by
  rw [loosenLexemes?, dropTrailingCommas_append h, texts?_append]
  rfl

theorem loosen?_eq (s : List Char) : loosen? s = (lexemes? (Text.trim s)).bind loosenLexemes? := rfl

/-- A lexeme in front, unless it is a comma that is dropped. -/
theorem loosenLexemes?_cons {lexeme : Lexeme} {A : List Lexeme}
    (h : lexeme ≠ .mark ',' ∨ closesNext A = false) :
    loosenLexemes? (lexeme :: A)
      = lexeme.text?.bind fun s => (loosenLexemes? A).map (s ++ ·) := by
  have hdrop : ¬ (lexeme = .mark ',' ∧ closesNext A = true) := by
    rintro ⟨hcomma, hcloses⟩
    rcases h with h | h
    · exact h hcomma
    · exact Bool.false_ne_true (h.symm.trans hcloses)
  rw [loosenLexemes?, dropTrailingCommas, if_neg hdrop, texts?_cons]
  rfl

/-- **The first of the lexemes that are loosened** is a comma that is dropped, or it has a text and
stands in front. -/
theorem loosenLexemes?_cases {lexeme : Lexeme} {A : List Lexeme} {t : List Char}
    (h : loosenLexemes? (lexeme :: A) = some t) :
    (lexeme = .mark ',' ∧ closesNext A = true ∧ loosenLexemes? A = some t)
      ∨ ∃ front rest, lexeme.text? = some front ∧ loosenLexemes? A = some rest
        ∧ t = front ++ rest := by
  have hkept (hkeep : lexeme ≠ .mark ',' ∨ closesNext A = false) :
      ∃ front rest, lexeme.text? = some front ∧ loosenLexemes? A = some rest
        ∧ t = front ++ rest := by
    rw [loosenLexemes?_cons hkeep] at h
    obtain ⟨front, hfront, h⟩ := Option.bind_eq_some_iff.1 h
    obtain ⟨rest, hrest, rfl⟩ := Option.map_eq_some_iff.1 h
    exact ⟨front, rest, hfront, hrest, rfl⟩
  by_cases hcomma : lexeme = .mark ','
  · cases hnext : closesNext A with
    | true =>
        rw [loosenLexemes?, dropTrailingCommas, if_pos ⟨hcomma, hnext⟩] at h
        exact Or.inl ⟨hcomma, rfl, h⟩
    | false => exact Or.inr (hkept (Or.inr hnext))
  · exact Or.inr (hkept (Or.inl hcomma))

/-- A character in front that is its own text in JSON. -/
theorem loosenLexemes?_mark {c : Char} {A : List Lexeme} (hopen : c ≠ '(') (hclose : c ≠ ')')
    (h : c ≠ ',' ∨ closesNext A = false) :
    loosenLexemes? (.mark c :: A) = (loosenLexemes? A).map (c :: ·) := by
  have hmark : markText c = c := (if_neg hopen).trans (if_neg hclose)
  rw [loosenLexemes?_cons (h.imp_left fun h heq => h (Lexeme.mark.inj heq)), Lexeme.text?, hmark]
  rfl

theorem loosenLexemes?_blank {c : Char} (hc : Text.isBlank c = true) (A : List Lexeme) :
    loosenLexemes? (.mark c :: A) = (loosenLexemes? A).map (c :: ·) := by
  have hne : ∀ d : Char, Text.isBlank d = false → c ≠ d := fun _ =>
    Json.Lexer.ne_of_textIsBlank hc
  exact loosenLexemes?_mark (hne _ (by decide)) (hne _ (by decide)) (Or.inl (hne _ (by decide)))

/-- Blanks stand for themselves. -/
theorem loosenLexemes?_blanks {b : List Char} (hb : b.all Text.isBlank = true) :
    loosenLexemes? (b.map .mark) = some b := by
  induction b with
  | nil => rfl
  | cons c b ih =>
      rw [List.all_cons, Bool.and_eq_true] at hb
      rw [List.map_cons, loosenLexemes?_blank hb.1, ih hb.2]
      rfl

/-! ## Atoms -/

/-- The lexemes of a text that is no array and no object: whatever stands behind them, they are
loosened to a text of their own. -/
structure Atom (s : List Char) (A : List Lexeme) (t : List Char) : Prop where
  lexemes : lexemes? s = some A
  blank : A.all Lexeme.isBlank = false
  closesNext : ∀ B, closesNext (A ++ B) = false
  endsInComma : ∀ B, endsInComma (A ++ B) = endsInComma B
  text : ∀ B, loosenLexemes? (A ++ B) = (loosenLexemes? B).map (t ++ ·)

/-- One lexeme that is no mark is an atom. -/
theorem atom_of_lexeme {s t : List Char} {lexeme : Lexeme} (hs : lexemes? s = some [lexeme])
    (hmark : ∀ c, lexeme ≠ .mark c) (ht : lexeme.text? = some t) : Atom s [lexeme] t where
  lexemes := hs
  blank := by
    cases lexeme with
    | mark c => exact absurd rfl (hmark c)
    | string _ | number _ | word _ => rfl
  closesNext := by
    intro B
    cases lexeme with
    | mark c => exact absurd rfl (hmark c)
    | string _ | number _ | word _ => rfl
  endsInComma := by
    intro B
    rw [List.singleton_append, endsInComma, beq_eq_false_iff_ne.2 (hmark ','), Bool.false_and,
      Bool.or_false]
  text := by
    intro B
    rw [List.singleton_append, loosenLexemes?_cons (Or.inl (hmark ',')), ht, Option.bind_some]

/-- A minus in front of an atom is kept. -/
theorem Atom.minus {s t : List Char} {A : List Lexeme} (h : Atom s A t) :
    Atom ('-' :: s) (.mark '-' :: A) ('-' :: t) where
  lexemes := by
    rw [lexemes?_mark (by decide), h.lexemes]
    rfl
  blank := rfl
  closesNext _ := rfl
  endsInComma B := by
    rw [List.cons_append, Literal.endsInComma, h.endsInComma]
    exact Bool.or_false _
  text B := by
    rw [List.cons_append, loosenLexemes?_mark (by decide) (by decide) (Or.inl (by decide)), h.text,
      Option.map_map]
    rfl

/-- **A number of JSON is an atom** that is kept as it is. -/
theorem exists_atom_number {text : List Char} {n : Json.Number}
    (hn : Json.Number.ofText? text = some n) : ∃ A, Atom text A text := by
  obtain ⟨sign, whole, fraction, exponent, htext, hparts⟩ := Json.Number.parts_of_ofText? hn
  have hunsigned := lexemes?_unsigned hparts
  have hatom := atom_of_lexeme hunsigned (fun _ h => by cases h)
    (numberText?_of_numberChars hparts.all_isNumberChar_unsigned)
  rw [List.append_assoc, List.append_assoc, ← List.append_assoc whole] at htext
  generalize whole ++ fraction ++ exponent = unsigned at htext hatom
  rw [htext]
  rcases hparts.sign with rfl | rfl
  · exact ⟨_, hatom⟩
  · exact ⟨_, hatom.minus⟩

end Switchboard.Literal
