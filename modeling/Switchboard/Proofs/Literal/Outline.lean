import Switchboard.Proofs.Json.Reading
import Switchboard.Proofs.Literal.Pieces

/-!
# Brackets and commas outside of strings

What is said of the brackets and commas of a text here is said of its outline: the text with one
quote in the place of each string. Brackets are nested if each is closed by one that fits it, and a
comma should come after the end of an element.

The reader of JSON sees to both. Its stack is that of the brackets that are open
(`Outlined.nested`), and what it expects next tells what came last, so it takes no comma and no
closing bracket in a wrong place (`Outlined.isChain`).
-/

namespace Switchboard.Literal

open Json (Token tokenize parse? NumberParts)
open Json.Lexer (isBreak)

/-! ## Outlines of texts -/

/-- Where a reader stands that only tells strings from what is outside of them. -/
inductive Quoting where
  | outside
  /-- Inside of a string that ends with `quote`. -/
  | inside (quote : Char)
  /-- After a backslash inside of a string. -/
  | escaped (quote : Char)

/-- A text from a state on, with one quote in the place of each string; there is none if the last
string does not end. -/
def outlineFrom : Quoting → List Char → Option (List Char)
  | .outside, [] => some []
  | .inside _, [] => none
  | .escaped _, [] => none
  | .outside, c :: s =>
    if c = '\'' ∨ c = '"' then (outlineFrom (.inside c) s).map ('"' :: ·)
    else (outlineFrom .outside s).map (c :: ·)
  | .inside quote, c :: s =>
    if c = '\\' then outlineFrom (.escaped quote) s
    else if c = quote then outlineFrom .outside s
    else outlineFrom (.inside quote) s
  | .escaped quote, _ :: s => outlineFrom (.inside quote) s

/-- A text with one quote in the place of each string. -/
def outline? (s : List Char) : Option (List Char) := outlineFrom .outside s

/-- A text without blanks. -/
def solid (s : List Char) : List Char := s.filter fun c => !Text.isBlank c

/-- Whether a character opens a bracket. -/
def opens (c : Char) : Bool := c == '[' || c == '\x7b' || c == '('

/-- Whether two brackets are a pair. -/
def isPair (opening closing : Char) : Bool :=
  (opening == '(' && closing == ')') || (opening == '[' && closing == ']') ||
    (opening == '\x7b' && closing == '\x7d')

/-- Whether each bracket is closed by one that fits it, if some are open already, the innermost
first. -/
def nestedFrom (fits : Char → Char → Bool) : List Char → List Char → Bool
  | stack, [] => stack.isEmpty
  | stack, c :: s =>
    if opens c then nestedFrom fits (c :: stack) s
    else if closes c then
      match stack with
      | [] => false
      | opening :: stack => fits opening c && nestedFrom fits stack s
    else nestedFrom fits stack s

/-- Whether a character may be the last of an element: a bracket that closes, the quote of a string,
or a character of a number or a word. -/
def endsElement (c : Char) : Bool := closes c || c == '"' || c.isAlphanum || c == '_'

/-- Every comma comes right after the end of an element. -/
def CommasAfterElements (s : List Char) : Prop :=
  ∀ front back, s = front ++ ',' :: back → ∃ c, front.getLast? = some c ∧ endsElement c = true

/-! ## Outlines of lexemes -/

/-- A lexeme with one quote in the place of a string. -/
def Lexeme.outline : Lexeme → List Char
  | .string _ => ['"']
  | .number text => text
  | .word text => text
  | .mark c => [c]

/-- Lexemes with one quote in the place of each string. -/
def outlineOf (A : List Lexeme) : List Char := A.flatMap Lexeme.outline

/-- What the reader of lexemes has read of an outline that is in no lexeme yet. -/
def State.pending : State → List Char
  | .between => []
  | .string .. => ['"']
  | .escape .. => ['"']
  | .number text => text.reverse
  | .word text => text.reverse

/-- Where the reader of lexemes stands, as far as strings go. -/
def State.quoting : State → Quoting
  | .string quote _ => .inside quote
  | .escape quote _ => .escaped quote
  | _ => .outside

theorem outlineFrom_plain {c : Char} (hsingle : c ≠ '\'') (hdouble : c ≠ '"') (s : List Char) :
    outlineFrom .outside (c :: s) = (outlineFrom .outside s).map (c :: ·) :=
  if_neg (not_or.2 ⟨hsingle, hdouble⟩)

/-- What no break is said to be is no break. -/
theorem isBreak_eq_false_of {c : Char} {said : Bool} (hbreak : isBreak c = true → said = false)
    (h : said = true) : isBreak c = false := by
  rw [← Bool.not_eq_true]
  intro hc
  rw [hbreak hc] at h
  cases h

theorem ne_quote_of_not_isBreak {c : Char} (h : isBreak c = false) : c ≠ '\'' ∧ c ≠ '"' := by
  constructor
  · rintro rfl
    exact absurd h (by decide)
  · rintro rfl
    exact absurd h (by decide)

/-- What a character between lexemes adds to the outline. -/
theorem outlineFrom_start (c : Char) (s : List Char) :
    outlineFrom .outside (c :: s)
      = (outlineFrom (start c).2.quoting s).map
          (outlineOf (start c).1 ++ (start c).2.pending ++ ·) := by
  unfold start
  by_cases hquote : c = '\'' ∨ c = '"'
  · rw [if_pos hquote]
    exact if_pos hquote
  · have hplain := outlineFrom_plain (not_or.1 hquote).1 (not_or.1 hquote).2 s
    rw [if_neg hquote]
    split
    · exact hplain
    · split
      · exact hplain
      · exact hplain

/-- **One character** adds to the outline what is pending after it and was not before. -/
theorem outlineFrom_step (state : State) (c : Char) :
    ∃ added, state.pending ++ added = outlineOf (step c state).1 ++ (step c state).2.pending
      ∧ ∀ s, outlineFrom state.quoting (c :: s)
        = (outlineFrom (step c state).2.quoting s).map (added ++ ·) := by
  have hsame (quoting : Quoting) (s : List Char) :
      outlineFrom quoting s = (outlineFrom quoting s).map ([] ++ ·) :=
    (Option.map_id' (x := outlineFrom quoting s)).symm
  have hstart := outlineFrom_start c
  -- a string shows its quote at once, a number or a word all that was read of it
  cases state with
  | between => exact ⟨_, rfl, hstart⟩
  | string quote content =>
      refine ⟨[], ?_, fun s => ?_⟩
      · rw [step]
        split
        · rfl
        · split <;> rfl
      · rw [← hsame, State.quoting, outlineFrom, step]
        split
        · rfl
        · split <;> rfl
  | escape quote content => exact ⟨[], rfl, fun s => hsame _ s⟩
  | number text =>
      rw [step]
      split
      · rename_i hc
        have hbreak := isBreak_eq_false_of (fun hbreak => continuesNumber_of_isBreak hbreak text) hc
        have hne := ne_quote_of_not_isBreak hbreak
        exact ⟨[c], (List.reverse_cons).symm, outlineFrom_plain hne.1 hne.2⟩
      · exact ⟨_, (List.append_assoc _ _ _).symm, hstart⟩
  | word text =>
      rw [step]
      split
      · rename_i hc
        have hne := ne_quote_of_not_isBreak (isBreak_eq_false_of continuesWord_of_isBreak hc)
        exact ⟨[c], (List.reverse_cons).symm, outlineFrom_plain hne.1 hne.2⟩
      · exact ⟨_, (List.append_assoc _ _ _).symm, hstart⟩

theorem outlineFrom_of_lexemesFrom {s : List Char} {state : State} {A : List Lexeme}
    (h : lexemesFrom state s = some A) :
    ∃ o, outlineFrom state.quoting s = some o ∧ outlineOf A = state.pending ++ o := by
  induction s generalizing state A with
  | nil =>
      refine ⟨[], ?_, ?_⟩
      · cases state <;> first | rfl | cases h
      · cases state with
        | string _ _ | escape _ _ => cases h
        | between | number _ | word _ =>
            cases h
            rfl
  | cons c s ih =>
      rw [lexemesFrom_cons] at h
      obtain ⟨B, hB, rfl⟩ := Option.map_eq_some_iff.1 h
      obtain ⟨o, ho, hB⟩ := ih hB
      obtain ⟨added, hadded, hstep⟩ := outlineFrom_step state c
      refine ⟨added ++ o, ?_, ?_⟩
      · rw [hstep, ho]
        rfl
      · rw [← List.append_assoc, hadded, List.append_assoc, ← hB, outlineOf, outlineOf, outlineOf,
          List.flatMap_append]

/-- **The outline of a text** is that of its lexemes. -/
theorem outline?_of_lexemes {s : List Char} {A : List Lexeme} (h : lexemes? s = some A) :
    outline? s = some (outlineOf A) := by
  obtain ⟨o, ho, hA⟩ := outlineFrom_of_lexemesFrom h
  rw [hA]
  exact ho

/-! ## What the reader of JSON lets pass -/

/-- Whether a character may come after another: a comma after the end of an element, a closing
bracket also after an opening one. -/
def MayFollow (before c : Char) : Prop :=
  (c = ',' → endsElement before = true)
    ∧ (closes c = true → endsElement before = true ∨ opens before = true)

/-- What may have come last where this is expected next. -/
def Admits (before : Char) : Json.Reader.Expected → Prop
  | .separator => endsElement before = true
  | .valueOrEnd => opens before = true
  | .keyOrEnd => opens before = true
  | _ => True

theorem admits_of_isSettled {c : Char} {expected : Json.Reader.Expected}
    (h : expected.isSettled = true) (hc : endsElement c = true) : Admits c expected := by
  cases expected with
  | separator => exact hc
  | colon | nothing v => trivial
  | value | valueOrEnd | key | keyOrEnd => cases h

theorem mayFollow_of_ne {c : Char} (hcomma : c ≠ ',') (hcloses : closes c = false)
    (before : Char) : MayFollow before c := by
  refine ⟨fun h => absurd h hcomma, fun h => ?_⟩
  rw [hcloses] at h
  cases h

/-- **A mark that the reader takes** may stand where it does. -/
theorem mayFollow_of_step {c : Char} {m : Token} {state next : Json.Reader.State}
    (hm : Json.Lexer.mark? c = some m) (h : Json.Reader.step m state = some next) {before : Char}
    (hbefore : Admits before state.expected) :
    MayFollow before c ∧ Admits c next.expected := by
  obtain ⟨stack, expected⟩ := state
  have hopening (hopens : m.opens = true) (hc : opens c = true) : Admits c next.expected := by
    have hvalue := Json.Reader.value_of_opens hopens h
    cases m with
    | openArray | openObject =>
        simp only [Json.Reader.value, Json.Reader.push] at hvalue
        split at hvalue
        · cases hvalue
          exact hc
        · cases hvalue
    | closeArray | closeObject | comma | colon | null | bool b | number n | string s => cases hopens
  have hclosing (hcloses : m.closes = true) (hopens : m.opens = false) (hc : c ≠ ',')
      (hends : endsElement c = true) : MayFollow before c ∧ Admits c next.expected := by
    refine ⟨⟨fun hcomma => absurd hcomma hc, fun _ => ?_⟩, admits_of_isSettled ?_ hends⟩
    · rcases Json.Reader.expected_before_closing hcloses h with rfl | rfl | rfl
      · exact Or.inl hbefore
      · exact Or.inr hbefore
      · exact Or.inr hbefore
    · refine Json.Reader.isSettled_of_step hopens ?_ ?_ h <;> rintro rfl <;> cases hcloses
  -- in turn: the brackets of arrays, those of objects, the comma and the colon
  rcases Json.Lexer.mark?_cases hm with rfl | rfl | rfl | rfl | rfl | rfl
  · cases hm
    exact ⟨mayFollow_of_ne (by decide) (by decide) before, hopening rfl (by decide)⟩
  · cases hm
    exact hclosing rfl rfl (by decide) (by decide)
  · cases hm
    exact ⟨mayFollow_of_ne (by decide) (by decide) before, hopening rfl (by decide)⟩
  · cases hm
    exact hclosing rfl rfl (by decide) (by decide)
  · cases hm
    obtain ⟨rfl, -⟩ := Json.Reader.expected_before_comma h
    refine ⟨⟨fun _ => hbefore, fun hcloses => absurd hcloses (by decide)⟩, ?_⟩
    rcases Json.Reader.expected_of_comma h with hnext | hnext <;> rw [hnext] <;> trivial
  · cases hm
    refine ⟨mayFollow_of_ne (by decide) (by decide) before, ?_⟩
    rw [Json.Reader.eq_of_colon h]
    trivial

/-- A character inside of an element: no bracket, no comma and no blank. -/
structure Inner (c : Char) : Prop where
  comma : c ≠ ','
  closes : closes c = false
  opens : opens c = false
  blank : Text.isBlank c = false

/-- Inner characters, the last of which may end an element. -/
structure Chunk (text : List Char) : Prop where
  inner : ∀ c ∈ text, Inner c
  ends : ∃ front d, text = front ++ [d] ∧ endsElement d = true

theorem solid_append_of_inner {text : List Char} (h : ∀ c ∈ text, Inner c) (s : List Char) :
    solid (text ++ s) = text ++ solid s := by
  have htext : text.filter (fun c => !Text.isBlank c) = text := by
    refine List.filter_eq_self.2 fun c hc => ?_
    rw [(h c hc).blank]
    rfl
  rw [solid, List.filter_append, htext]
  rfl

theorem solid_blank {c : Char} (h : Text.isBlank c = true) (s : List Char) :
    solid (c :: s) = solid s :=
  List.filter_cons_of_neg (by rw [h]; exact Bool.false_ne_true)

theorem solid_cons {c : Char} (h : Text.isBlank c = false) (s : List Char) :
    solid (c :: s) = c :: solid s :=
  List.filter_cons_of_pos (by rw [h]; rfl)

/-- What may stand inside of a number or a word is an inner character. -/
theorem inner_of_not_isBreak {c : Char} (h : isBreak c = false) : Inner c := by
  have hne : ∀ d, isBreak d = true → c ≠ d := by
    rintro d hd rfl
    rw [h] at hd
    cases hd
  refine ⟨hne ',' (by decide), ?_, ?_, ?_⟩
  · simp [closes, hne ']' (by decide), hne '\x7d' (by decide), hne ')' (by decide)]
  · simp [opens, hne '[' (by decide), hne '\x7b' (by decide), hne '(' (by decide)]
  · rw [← Bool.not_eq_true]
    intro hblank
    exact hne c (Json.Lexer.isBreak_of_isQuiet (Json.Lexer.isQuiet_of_textIsBlank hblank)) rfl

theorem chunk_of_aligned {sign unsigned : List Char} {n : Json.Number}
    (hsign : sign = [] ∨ sign = ['-']) (hchars : unsigned.all Json.Lexer.isNumberChar = true)
    (hn : Json.Number.ofText? (sign ++ unsigned) = some n) : Chunk (sign ++ unsigned) where
  inner c hc := by
    have hchar : Json.Lexer.isNumberChar c = true := by
      rcases List.mem_append.1 hc with hc | hc
      · rcases hsign with rfl | rfl
        · cases hc
        · rw [List.mem_singleton.1 hc]
          rfl
      · exact List.all_eq_true.1 hchars c hc
    exact inner_of_not_isBreak (isBreak_eq_false_of Json.Lexer.isNumberChar_of_isBreak hchar)
  ends := by
    obtain ⟨front, d, htext, hd⟩ := Json.Number.endsInDigit_of_ofText? hn
    refine ⟨front, d, htext, ?_⟩
    rw [endsElement, Char.isAlphanum, hd]
    simp

theorem chunk_of_word {text : List Char} {w : Token} (h : Json.Lexer.wordToken? text = some w) :
    Chunk text := by
  have hinner {c : Char} (hc : c ∈ "nulltruefalse".toList) : Inner c := by
    have hword : "nulltruefalse".toList.all (!isBreak ·) = true := rfl
    exact inner_of_not_isBreak (by simpa using List.all_eq_true.1 hword c hc)
  rcases Json.Lexer.wordToken?_cases h with ⟨rfl, -⟩ | ⟨rfl, -⟩ | ⟨rfl, -⟩
  · exact ⟨fun c hc => hinner (List.mem_append_left "truefalse".toList hc), "nul".toList, 'l', rfl,
      by decide⟩
  · refine ⟨fun c hc => hinner ?_, "tru".toList, 'e', rfl, by decide⟩
    exact List.mem_append_right "null".toList (List.mem_append_left "false".toList hc)
  · refine ⟨fun c hc => hinner ?_, "fals".toList, 'e', rfl, by decide⟩
    exact List.mem_append_right "nulltrue".toList hc

theorem plain_of_word {text : List Char} {w : Token} (h : Json.Lexer.wordToken? text = some w) :
    w.separates = false ∧ w.opens = false := by
  rcases Json.Lexer.wordToken?_cases h with ⟨-, rfl⟩ | ⟨-, rfl⟩ | ⟨-, rfl⟩ <;> exact ⟨rfl, rfl⟩

theorem outlineOf_number (sign unsigned : List Char) (A : List Lexeme) :
    outlineOf (sign.map .mark ++ .number unsigned :: A) = (sign ++ unsigned) ++ outlineOf A := by
  have hsign : outlineOf (sign.map .mark) = sign := by
    induction sign with
    | nil => rfl
    | cons c sign ih => exact congrArg (c :: ·) ih
  rw [outlineOf, List.flatMap_append, ← outlineOf, hsign, List.append_assoc]
  rfl

theorem inner_quote : Inner '"' := ⟨by decide, by decide, by decide, by decide⟩

theorem chunk_quote : Chunk ['"'] :=
  ⟨fun c hc => List.mem_singleton.1 hc ▸ inner_quote, [], '"', rfl, by decide⟩

/-- Tokens and the outline of a text of theirs: blanks, marks, and what is neither a mark nor a
bracket. -/
inductive Outlined : List Token → List Char → Prop where
  | nil : Outlined [] []
  | blank {c : Char} {T : List Token} {o : List Char} : Text.isBlank c = true → Outlined T o →
      Outlined T (c :: o)
  | mark {c : Char} {m : Token} {T : List Token} {o : List Char} :
      Json.Lexer.mark? c = some m → Outlined T o → Outlined (m :: T) (c :: o)
  | chunk {t : Token} {text : List Char} {T : List Token} {o : List Char} :
      t.separates = false ∧ t.opens = false → Chunk text → Outlined T o →
      Outlined (t :: T) (text ++ o)

/-- For the reader of JSON there are no more kinds of lexemes than these. -/
theorem Aligned.outlined {T : List Token} {A : List Lexeme} (h : Aligned T A) :
    Outlined T (outlineOf A) := by
  induction h with
  | nil => exact .nil
  | blank hc _ ih => exact .blank (Json.Lexer.textIsBlank_of_isBlank hc) ih
  | mark hm _ ih => exact .mark hm ih
  | string _ ih => exact .chunk ⟨rfl, rfl⟩ chunk_quote ih
  | number hsign hchars hn _ ih =>
      rw [outlineOf_number]
      exact .chunk ⟨rfl, rfl⟩ (chunk_of_aligned hsign hchars hn) ih
  | word hw _ ih => exact .chunk (plain_of_word hw) (chunk_of_word hw) ih

/-- Inner characters may follow whatever comes before them. -/
theorem isChain_inner {front s : List Char} {last : Char} (hinner : ∀ c ∈ front ++ [last], Inner c)
    (h : (last :: s).IsChain MayFollow) (before : Char) :
    (before :: (front ++ last :: s)).IsChain MayFollow := by
  induction front generalizing before with
  | nil =>
      have hlast := hinner last (List.mem_singleton.2 rfl)
      exact List.isChain_cons_cons.2 ⟨mayFollow_of_ne hlast.comma hlast.closes before, h⟩
  | cons c front ih =>
      have hc := hinner c List.mem_cons_self
      refine List.isChain_cons_cons.2 ⟨mayFollow_of_ne hc.comma hc.closes before, ?_⟩
      exact ih (fun d hd => hinner d (List.mem_cons_of_mem _ hd)) c

theorem Chunk.isChain {text : List Char} (h : Chunk text) {t : Token}
    {state next : Json.Reader.State} (ht : t.separates = false ∧ t.opens = false)
    (hstep : Json.Reader.step t state = some next) {s : List Char}
    (hs : ∀ last, Admits last next.expected → (last :: s).IsChain MayFollow) (before : Char) :
    (before :: (text ++ s)).IsChain MayFollow := by
  obtain ⟨front, d, rfl, hd⟩ := h.ends
  have hsettled : next.expected.isSettled = true := by
    refine Json.Reader.isSettled_of_step ht.2 ?_ ?_ hstep <;> rintro rfl <;> cases ht.1
  rw [List.append_assoc]
  exact isChain_inner h.inner (hs d (admits_of_isSettled hsettled hd)) before

/-- **What the reader takes has its commas and brackets in place.** -/
theorem Outlined.isChain {T : List Token} {o : List Char} (h : Outlined T o)
    {state last : Json.Reader.State} (hrun : Json.Reader.run T state = some last) {before : Char}
    (hbefore : Admits before state.expected) : (before :: solid o).IsChain MayFollow := by
  induction h generalizing state before with
  | nil => exact .singleton before
  | blank hc _ ih =>
      rw [solid_blank hc]
      exact ih hrun hbefore
  | mark hm _ ih =>
      obtain ⟨next, hstep, hrun⟩ := Json.Reader.run_cons_eq_some_iff.1 hrun
      obtain ⟨hfollows, hadmits⟩ := mayFollow_of_step hm hstep hbefore
      rw [solid_cons (facts_of_mark hm).2.2.2.1]
      exact List.isChain_cons_cons.2 ⟨hfollows, ih hrun hadmits⟩
  | chunk ht htext _ ih =>
      obtain ⟨next, hstep, hrun⟩ := Json.Reader.run_cons_eq_some_iff.1 hrun
      rw [solid_append_of_inner htext.inner]
      exact htext.isChain ht hstep (fun _ => ih hrun) before

/-! ## The brackets that are open -/

/-- The bracket that opened an array or an object. -/
def bracketOf : Json.Reader.Frame → Char
  | .array _ => '['
  | .object _ => '\x7b'
  | .member _ _ => '\x7b'

theorem brackets_of_complete {v : Json} {stack : List Json.Reader.Frame}
    {next : Json.Reader.State} (h : Json.Reader.complete v stack = some next) :
    next.stack.map bracketOf = stack.map bracketOf := by
  rcases stack with _ | ⟨_ | _ | _, stack⟩ <;> cases h <;> rfl

/-- What is neither a mark nor a bracket opens and closes nothing. -/
theorem brackets_of_step {t : Token} (ht : t.separates = false ∧ t.opens = false)
    {stack : List Json.Reader.Frame} {expected : Json.Reader.Expected} {next : Json.Reader.State}
    (h : Json.Reader.step t ⟨stack, expected⟩ = some next) :
    next.stack.map bracketOf = stack.map bracketOf := by
  have hne : ∀ u : Token, u.separates = true → t ≠ u := by
    rintro u hu rfl
    exact Bool.false_ne_true (ht.1.symm.trans hu)
  cases Json.Reader.move_of_step h with
  | value hvalue | firstValue _ hvalue =>
      cases t with
      | null | bool b | number n | string s => exact brackets_of_complete hvalue
      | openArray | openObject => exact absurd ht.2 (by decide)
      | closeArray | closeObject | comma | colon => exact absurd ht.1 (by decide)
  | key hkey | firstKey _ hkey =>
      unfold Json.Reader.key at hkey
      split at hkey
      · cases hkey
        rfl
      · cases hkey
  | emptyArray hother | emptyObject hother | colon hother | nextValue hother | nextKey hother
    | endArray hother | endObject hother => exact absurd hother (hne _ rfl)

section
variable {fits : Char → Char → Bool} {c : Char} {stack s : List Char}

theorem nestedFrom_plain (hopens : opens c = false) (hcloses : closes c = false) :
    nestedFrom fits stack (c :: s) = nestedFrom fits stack s := by
  rw [nestedFrom.eq_def]
  dsimp only
  rw [hopens, hcloses, if_neg Bool.false_ne_true, if_neg Bool.false_ne_true]

theorem nestedFrom_opens (h : opens c = true) :
    nestedFrom fits stack (c :: s) = nestedFrom fits (c :: stack) s := by
  rw [nestedFrom.eq_def]
  dsimp only
  rw [h, if_pos rfl]

theorem nestedFrom_closes (hopens : opens c = false) (hcloses : closes c = true) (opening : Char) :
    nestedFrom fits (opening :: stack) (c :: s)
      = (fits opening c && nestedFrom fits stack s) := by
  rw [nestedFrom.eq_def]
  dsimp only
  rw [hopens, hcloses, if_neg Bool.false_ne_true, if_pos rfl]

theorem nestedFrom_nil_closes (hopens : opens c = false) (hcloses : closes c = true) :
    nestedFrom fits [] (c :: s) = false := by
  rw [nestedFrom.eq_def]
  dsimp only
  rw [hopens, hcloses, if_neg Bool.false_ne_true, if_pos rfl]

end

theorem opens_of_textIsBlank {c : Char} (h : Text.isBlank c = true) : opens c = false := by
  have hne : ∀ d : Char, Text.isBlank d = false → (c == d) = false := fun d hd =>
    beq_eq_false_iff_ne.2 (Json.Lexer.ne_of_textIsBlank h hd)
  rw [opens, hne _ (by decide), hne _ (by decide), hne _ (by decide)]
  rfl

theorem nestedFrom_inner {text : List Char} (h : ∀ c ∈ text, Inner c)
    (fits : Char → Char → Bool) (stack s : List Char) :
    nestedFrom fits stack (text ++ s) = nestedFrom fits stack s := by
  induction text with
  | nil => rfl
  | cons c text ih =>
      have hc := h c List.mem_cons_self
      rw [List.cons_append, nestedFrom_plain hc.opens hc.closes]
      exact ih fun d hd => h d (List.mem_cons_of_mem _ hd)

/-- **A mark that the reader takes** opens and closes the brackets that the reader has open. -/
theorem nestedFrom_of_step {c : Char} {m : Token} {state next : Json.Reader.State}
    (hm : Json.Lexer.mark? c = some m) (h : Json.Reader.step m state = some next)
    (s : List Char) :
    nestedFrom isPair (state.stack.map bracketOf) (c :: s)
      = nestedFrom isPair (next.stack.map bracketOf) s := by
  obtain ⟨stack, expected⟩ := state
  -- in turn: the brackets of arrays, those of objects, the comma and the colon
  rcases Json.Lexer.mark?_cases hm with rfl | rfl | rfl | rfl | rfl | rfl
  · cases hm
    have hpush := Json.Reader.value_of_opens rfl h
    simp only [Json.Reader.value, Json.Reader.push] at hpush
    split at hpush
    · cases hpush
      rfl
    · cases hpush
  · cases hm
    have hclose := Json.Reader.closeArray_of_step h
    rcases stack with _ | ⟨_ | _ | _, stack⟩
    · cases hclose
    · rw [brackets_of_complete hclose]
      rfl
    · cases hclose
    · cases hclose
  · cases hm
    have hpush := Json.Reader.value_of_opens rfl h
    simp only [Json.Reader.value, Json.Reader.push] at hpush
    split at hpush
    · cases hpush
      rfl
    · cases hpush
  · cases hm
    have hclose := Json.Reader.closeObject_of_step h
    rcases stack with _ | ⟨_ | _ | _, stack⟩
    · cases hclose
    · cases hclose
    · rw [brackets_of_complete hclose]
      rfl
    · cases hclose
  · cases hm
    rw [(Json.Reader.expected_before_comma h).2]
    rfl
  · cases hm
    rw [Json.Reader.eq_of_colon h]
    rfl

/-- **What the reader takes has its brackets nested.** -/
theorem Outlined.nested {T : List Token} {o : List Char} (h : Outlined T o)
    {state last : Json.Reader.State} (hrun : Json.Reader.run T state = some last)
    (hlast : last.stack = []) : nestedFrom isPair (state.stack.map bracketOf) o = true := by
  induction h generalizing state with
  | nil =>
      cases Option.some.inj hrun
      rw [hlast]
      rfl
  | blank hc _ ih =>
      rw [nestedFrom_plain (opens_of_textIsBlank hc) (closes_of_textIsBlank hc)]
      exact ih hrun
  | mark hm _ ih =>
      obtain ⟨next, hstep, hrun⟩ := Json.Reader.run_cons_eq_some_iff.1 hrun
      rw [nestedFrom_of_step hm hstep]
      exact ih hrun
  | chunk ht htext _ ih =>
      obtain ⟨next, hstep, hrun⟩ := Json.Reader.run_cons_eq_some_iff.1 hrun
      rw [nestedFrom_inner htext.inner, ← brackets_of_step ht hstep]
      exact ih hrun

/-! ## Texts of JSON -/

/-- **The outline of a text of JSON**: its brackets are nested, and each comma and each closing
bracket may follow what comes before it. The colon stands for the beginning, after which neither may
come. -/
theorem outline_of_parse? {s : List Char} {v : Json} (h : parse? s = some v) :
    ∃ o, outline? s = some o ∧ nestedFrom isPair [] o = true
      ∧ (':' :: solid o).IsChain MayFollow := by
  obtain ⟨T, U, -, -, hv, hpieces, -⟩ := loosened_of_parse? h
  obtain ⟨A, hA, haligned⟩ := hpieces.exists_aligned
  obtain ⟨last, hrun⟩ := Json.ofTokens?_eq_some_iff.1 hv
  have hlast : last = [] := Json.Reader.closed_of_run (fun _ hv => by cases hv) hrun v rfl
  exact ⟨outlineOf A, outline?_of_lexemes hA, haligned.outlined.nested hrun hlast,
    haligned.outlined.isChain hrun trivial⟩

theorem commasAfterElements_of_chain {s : List Char} (h : (':' :: s).IsChain MayFollow) :
    CommasAfterElements s := by
  rintro front back rfl
  rcases List.eq_nil_or_concat front with rfl | ⟨front, c, rfl⟩
  · exact absurd ((List.isChain_cons_cons.1 h).1.1 rfl) (by decide)
  · rw [List.concat_eq_append, List.append_assoc] at h
    have hfollows := ((List.isChain_cons_append_cons_cons.1 h).2.1 : MayFollow c ',')
    exact ⟨c, by rw [List.concat_eq_append, List.getLast?_concat], hfollows.1 rfl⟩

end Switchboard.Literal
