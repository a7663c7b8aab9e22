import Switchboard.Proofs.Literal.Outline

/-!
# Brackets and commas of literals

Loosening makes square brackets of round ones before the reader of JSON sees them, and drops a comma
for what comes after it, whatever came before. So a round bracket may close a square one, and a
comma may stand alone between brackets. `parse_bracketed` says that this is all: in every literal
the brackets are nested up to the difference of round and square ones, and every other comma comes
after the end of an element.

What is written and what it is loosened to are compared by their outlines. `Rewritten` relates the
two, one lexeme at a time, and takes what the reader of JSON saw to back to the literal.
-/

namespace Switchboard.Literal

open Json (parse?)
open Json.Lexer (isBreak)

/-- Whether two brackets are a pair if round and square ones are not told apart. -/
def isLoosePair (opening closing : Char) : Bool :=
  ((opening == '(' || opening == '[') && (closing == ')' || closing == ']')) ||
    (opening == '\x7b' && closing == '\x7d')

/-- Every comma comes right after the end of an element, or alone between an opening and a closing
bracket. -/
def CommasAfterElementsOrAlone (s : List Char) : Prop :=
  ∀ front back, s = front ++ ',' :: back → ∃ c, front.getLast? = some c ∧
    (endsElement c = true ∨ opens c = true ∧ ∃ d, back.head? = some d ∧ closes d = true)

/-- Every bracket is closed by its own kind, and every comma comes after the end of an element. -/
structure WellBracketed (s : List Char) : Prop where
  nested : nestedFrom isPair [] s = true
  commas : CommasAfterElements s

/-- As `WellBracketed`, but for round and square brackets that close each other, and commas alone
between brackets. -/
structure LooselyBracketed (s : List Char) : Prop where
  nested : nestedFrom isLoosePair [] s = true
  commas : CommasAfterElementsOrAlone s

/-- Not both round and square brackets. -/
def OneKind (s : List Char) : Prop :=
  (∀ c ∈ s, c ≠ '(' ∧ c ≠ ')') ∨ (∀ c ∈ s, c ≠ '[' ∧ c ≠ ']')

/-- No comma right after an opening bracket. -/
def NoneAlone (s : List Char) : Prop :=
  ∀ front back, s = front ++ ',' :: back → ∀ c ∈ front.getLast?, opens c = false

/-! ## Outlines of texts put together -/

theorem outlineFrom_append {quoting : Quoting} {s o : List Char}
    (h : outlineFrom quoting s = some o) (t : List Char) :
    outlineFrom quoting (s ++ t) = (outline? t).map (o ++ ·) := by
  fun_induction outlineFrom quoting s generalizing o with
  | case1 =>
      cases h
      exact (Option.map_id' (x := outline? t)).symm
  | case2 quote => cases h
  | case3 quote => cases h
  | case4 c s hquote ih =>
      obtain ⟨o, ho, rfl⟩ := Option.map_eq_some_iff.1 h
      rw [List.cons_append, outlineFrom, if_pos hquote, ih ho, Option.map_map]
      rfl
  | case5 c s hquote ih =>
      obtain ⟨o, ho, rfl⟩ := Option.map_eq_some_iff.1 h
      rw [List.cons_append, outlineFrom, if_neg hquote, ih ho, Option.map_map]
      rfl
  | case6 quote s ih => rw [List.cons_append, outlineFrom, if_pos rfl, ih h]
  | case7 s quote hbackslash ih =>
      rw [List.cons_append, outlineFrom, if_neg hbackslash, if_pos rfl, ih h]
  | case8 quote c s hbackslash hquote ih =>
      rw [List.cons_append, outlineFrom, if_neg hbackslash, if_neg hquote, ih h]
  | case9 quote c s ih => exact ih h

/-- The outline of a text that comes before another. -/
theorem outline?_append {s o : List Char} (h : outline? s = some o) (t : List Char) :
    outline? (s ++ t) = (outline? t).map (o ++ ·) := outlineFrom_append h t

/-- A text without quotes is its own outline. -/
theorem outline?_of_plain {s : List Char} (h : ∀ c ∈ s, c ≠ '\'' ∧ c ≠ '"') :
    outline? s = some s := by
  induction s with
  | nil => rfl
  | cons c s ih =>
      have hc := h c List.mem_cons_self
      have hs := ih fun d hd => h d (List.mem_cons_of_mem _ hd)
      rw [outline?, outlineFrom_plain hc.1 hc.2, ← outline?, hs]
      rfl

/-- A character in a string of JSON does not end the string. -/
theorem outlineFrom_escapeChar (c : Char) (s : List Char) :
    outlineFrom (.inside '"') (Json.escapeChar c ++ s) = outlineFrom (.inside '"') s := by
  have hdigit : ∀ k < 16, Nat.digitChar k ≠ '\\' ∧ Nat.digitChar k ≠ '"' := by decide
  have hskip {d : Char} (hd : d ≠ '\\' ∧ d ≠ '"') (s : List Char) :
      outlineFrom (.inside '"') (d :: s) = outlineFrom (.inside '"') s := by
    rw [outlineFrom, if_neg hd.1, if_neg hd.2]
  rcases Json.escapeChar_cases c with
    ⟨e, hc, -, -⟩ | ⟨hcontrol, hc⟩ | ⟨hquote, hbackslash, -, hc⟩
  · rw [hc]
    rfl
  · -- after the backslash and the letter come the four digits of the code
    have hcode : outlineFrom (.inside '"') (Json.escapeChar c ++ s)
        = outlineFrom (.inside '"') ('0' :: '0' :: Nat.digitChar (c.toNat / 16)
          :: Nat.digitChar (c.toNat % 16) :: s) := by
      rw [hc]
      rfl
    rw [hcode, hskip (by decide), hskip (by decide), hskip (hdigit _ (by omega)),
      hskip (hdigit _ (by omega))]
  · rw [hc]
    exact hskip ⟨hbackslash, hquote⟩ s

/-- **A string of JSON is one quote in its outline.** -/
theorem outline?_quote (content : List Char) : outline? (Json.quote content) = some ['"'] := by
  have hcontent : outlineFrom (.inside '"') (content.flatMap Json.escapeChar ++ ['"'])
      = some [] := by
    induction content with
    | nil => rfl
    | cons c content ih =>
        rw [List.flatMap_cons, List.append_assoc, outlineFrom_escapeChar, ih]
  rw [outline?, Json.quote, List.cons_append, outlineFrom, if_pos (Or.inr rfl), hcontent]
  rfl

/-! ## Lexemes as they are read -/

/-- A text with a digit and without breaks, as numbers are. -/
structure Numeral (text : List Char) : Prop where
  digit : ∃ d ∈ text, d.isDigit = true
  chars : ∀ c ∈ text, isBreak c = false

theorem Numeral.reverse {text : List Char} (h : Numeral text) : Numeral text.reverse := by
  obtain ⟨d, hd, hdigit⟩ := h.digit
  exact ⟨⟨d, List.mem_reverse.2 hd, hdigit⟩, fun c hc => h.chars c (List.mem_reverse.1 hc)⟩

/-- What the reader of lexemes makes sure of: a number is a numeral, and a mark is a character that
begins nothing else. -/
def Lexeme.Valid : Lexeme → Prop
  | .string _ => True
  | .number text => Numeral text
  | .word _ => True
  | .mark c => isMark c = true

/-- The same for a number that has not ended. -/
def State.Valid : State → Prop
  | .number text => Numeral text
  | _ => True

theorem not_isBreak_of_isDigit {c : Char} (h : c.isDigit = true) : isBreak c = false := by
  rw [isBreak, Char.isAlphanum, h]
  simp

theorem valid_start (c : Char) : (∀ lexeme ∈ (start c).1, lexeme.Valid) ∧ (start c).2.Valid := by
  unfold start
  split
  · exact ⟨List.forall_mem_nil _, trivial⟩
  · rename_i hquote
    split
    · rename_i hdigit
      refine ⟨List.forall_mem_nil _, ⟨c, List.mem_singleton.2 rfl, hdigit⟩, fun d hd => ?_⟩
      rw [List.mem_singleton.1 hd, not_isBreak_of_isDigit hdigit]
    · rename_i hdigit
      split
      · exact ⟨List.forall_mem_nil _, trivial⟩
      · rename_i halpha
        refine ⟨List.forall_mem_singleton.2 ?_, trivial⟩
        simp only [Lexeme.Valid, isMark, Bool.and_eq_true, bne_iff_ne, Bool.not_eq_true']
        rw [not_or] at hquote
        exact ⟨⟨hquote, eq_false_of_ne_true hdigit⟩, eq_false_of_ne_true halpha⟩

theorem valid_step {state : State} (h : state.Valid) (c : Char) :
    (∀ lexeme ∈ (step c state).1, lexeme.Valid) ∧ (step c state).2.Valid := by
  have hstart := valid_start c
  cases state with
  | between => exact hstart
  | string quote content =>
      rw [step]
      split
      · exact ⟨List.forall_mem_nil _, trivial⟩
      · split
        · exact ⟨List.forall_mem_singleton.2 trivial, trivial⟩
        · exact ⟨List.forall_mem_nil _, trivial⟩
  | escape quote content => exact ⟨List.forall_mem_nil _, trivial⟩
  | number text =>
      rw [step]
      split
      · rename_i hc
        have hbreak := isBreak_eq_false_of (fun hbreak => continuesNumber_of_isBreak hbreak text) hc
        obtain ⟨d, hd, hdigit⟩ := h.digit
        exact ⟨List.forall_mem_nil _, ⟨d, List.mem_cons_of_mem _ hd, hdigit⟩,
          List.forall_mem_cons.2 ⟨hbreak, h.chars⟩⟩
      · exact ⟨List.forall_mem_cons.2 ⟨h.reverse, hstart.1⟩, hstart.2⟩
  | word text =>
      rw [step]
      split
      · exact ⟨List.forall_mem_nil _, trivial⟩
      · exact ⟨List.forall_mem_cons.2 ⟨trivial, hstart.1⟩, hstart.2⟩

theorem valid_of_lexemesFrom {s : List Char} {state : State} (hstate : state.Valid)
    {A : List Lexeme} (h : lexemesFrom state s = some A) : ∀ lexeme ∈ A, lexeme.Valid := by
  induction s generalizing state A with
  | nil =>
      cases state with
      | between =>
          cases h
          exact List.forall_mem_nil _
      | number text =>
          cases h
          exact List.forall_mem_singleton.2 hstate.reverse
      | word text =>
          cases h
          exact List.forall_mem_singleton.2 trivial
      | string _ _ | escape _ _ => cases h
  | cons c s ih =>
      rw [lexemesFrom_cons] at h
      obtain ⟨B, hB, rfl⟩ := Option.map_eq_some_iff.1 h
      obtain ⟨hout, hnext⟩ := valid_step hstate c
      exact List.forall_mem_append.2 ⟨hout, ih hnext hB⟩

/-- **Every lexeme of a text** is valid. -/
theorem valid_of_lexemes {s : List Char} {A : List Lexeme} (h : lexemes? s = some A) :
    ∀ lexeme ∈ A, lexeme.Valid := by
  have hbetween : State.Valid .between := trivial
  exact valid_of_lexemesFrom hbetween h

/-! ## Elements and their texts in JSON -/

/-- A string, a number or a word, and its text in JSON: the last character of what is written may
end an element if that of the other may. -/
structure Twins (x y : List Char) : Prop where
  left : ∀ c ∈ x, Inner c
  right : ∀ c ∈ y, Inner c
  last : ∃ front c front' d, x = front ++ [c] ∧ y = front' ++ [d] ∧
    (endsElement d = true → endsElement c = true)

theorem twins_quote : Twins ['"'] ['"'] :=
  ⟨chunk_quote.inner, chunk_quote.inner, [], '"', [], '"', rfl, rfl, id⟩

/-- The texts of words, and the words themselves, have no breaks. -/
theorem twins_of_word {x y : List Char} (h : wordText? x = some y) :
    Twins x y ∧ ∀ c ∈ y, isBreak c = false := by
  have htwins (front front' : List Char) (d : Char) (hleft : front ++ ['e'] = x)
      (hright : front' ++ [d] = y) (hwords : (x ++ y).all (!isBreak ·) = true) :
      Twins x y ∧ ∀ c ∈ y, isBreak c = false := by
    obtain ⟨hx, hy⟩ : (∀ c ∈ x, isBreak c = false) ∧ ∀ c ∈ y, isBreak c = false := by
      simpa using hwords
    exact ⟨⟨fun c hc => inner_of_not_isBreak (hx c hc), fun c hc => inner_of_not_isBreak (hy c hc),
      front, 'e', front', d, hleft.symm, hright.symm, fun _ => rfl⟩, hy⟩
  unfold wordText? at h
  split at h
  · rename_i hx
    cases h
    cases hx
    exact htwins "Tru".toList "tru".toList 'e' rfl rfl rfl
  · split at h
    · rename_i hx
      cases h
      cases hx
      exact htwins "Fals".toList "fals".toList 'e' rfl rfl rfl
    · split at h
      · rename_i hx
        cases h
        cases hx
        exact htwins "Non".toList "nul".toList 'l' rfl rfl rfl
      · cases h

theorem exists_digitIn?_of_natIn? {base n : Nat} {s : List Char} {c : Char}
    (h : Decimal.natIn? base (s ++ [c]) = some n) : ∃ k, Decimal.digitIn? base c = some k := by
  unfold Decimal.natIn? at h
  rw [if_neg (by simp), List.foldlM_append] at h
  obtain ⟨m, -, hc⟩ := Option.bind_eq_some_iff.1 h
  rw [List.foldlM_cons] at hc
  obtain ⟨value, hvalue, -⟩ := Option.bind_eq_some_iff.1 hc
  obtain ⟨k, hk, -⟩ := Option.map_eq_some_iff.1 hvalue
  exact ⟨k, hk⟩

/-- The last character of a number in a base is a digit, as the two in front are not all there
is. -/
theorem exists_digitIn?_of_drop {base n : Nat} {s : List Char} {c : Char}
    (h : Decimal.natIn? base ((s ++ [c]).drop 2) = some n) :
    ∃ k, Decimal.digitIn? base c = some k := by
  rw [List.drop_append] at h
  cases hlength : 2 - s.length with
  | zero =>
      rw [hlength] at h
      exact exists_digitIn?_of_natIn? h
  | succ m =>
      have hempty : s.drop 2 = [] := List.drop_eq_nil_of_le (by omega)
      rw [hlength, hempty, List.drop_succ_cons, List.drop_nil] at h
      cases h

/-- A character of a number may end an element, unless it is a point or a sign. -/
theorem endsElement_or_of_not_isBreak {c : Char} (h : isBreak c = false) :
    endsElement c = true ∨ c = '.' ∨ c = '+' ∨ c = '-' := by
  simp only [isBreak, Bool.not_eq_false', Bool.or_eq_true, beq_iff_eq] at h
  rcases h with (((h | rfl) | h) | h) | h
  · exact Or.inl (by simp [endsElement, h])
  · exact Or.inl rfl
  · exact Or.inr (Or.inl h)
  · exact Or.inr (Or.inr (Or.inl h))
  · exact Or.inr (Or.inr (Or.inr h))

theorem numberText?_cases {x y : List Char} (h : numberText? x = some y) :
    y = x.filter (· ≠ '_') ∨ ∃ base n, Decimal.natIn? base ((x.filter (· ≠ '_')).drop 2) = some n
      ∧ y = Decimal.ofNat n := by
  unfold numberText? at h
  dsimp only at h
  split at h
  · exact Or.inl (Option.some.inj h).symm
  · rename_i base _
    obtain ⟨n, hn, rfl⟩ := Option.map_eq_some_iff.1 h
    exact Or.inr ⟨base, n, (Option.filter_eq_some_iff.1 hn).1, rfl⟩

/-- **A number and its text in JSON** end in digits or in the same character. -/
theorem twins_of_number {x y : List Char} (hx : Numeral x) (h : numberText? x = some y) :
    Twins x y ∧ ∀ c ∈ y, isBreak c = false := by
  obtain ⟨⟨d, hd, hdigit⟩, hchars⟩ := hx
  have hright : (∀ c ∈ y, isBreak c = false) ∧ y ≠ [] := by
    rcases numberText?_cases h with rfl | ⟨base, n, -, rfl⟩
    · refine ⟨fun c hc => hchars c (List.mem_of_mem_filter hc), ?_⟩
      refine List.ne_nil_of_mem (List.mem_filter.2 ⟨hd, decide_eq_true ?_⟩)
      rintro rfl
      cases hdigit
    · have hdigits := List.all_eq_true.1 (Json.isDigit_ofNat n)
      exact ⟨fun c hc => not_isBreak_of_isDigit (hdigits c hc), Nat.toDigits_ne_nil⟩
  obtain ⟨front, c, rfl⟩ := (List.eq_nil_or_concat' x).resolve_left (List.ne_nil_of_mem hd)
  obtain ⟨front', d, rfl⟩ := (List.eq_nil_or_concat' y).resolve_left hright.2
  refine ⟨⟨fun c hc => inner_of_not_isBreak (hchars c hc),
    fun c hc => inner_of_not_isBreak (hright.1 c hc), front, c, front', d, rfl, rfl, fun hd => ?_⟩,
    hright.1⟩
  by_cases hunderscore : c = '_'
  · -- it is left out of the text in JSON, but may end an element as it is
    rw [hunderscore]
    rfl
  · have hfilter : (front ++ [c]).filter (· ≠ '_') = front.filter (· ≠ '_') ++ [c] := by
      simp [hunderscore]
    rcases numberText?_cases h with hy | ⟨base, n, hn, -⟩
    · rw [hfilter] at hy
      rwa [← List.singleton_inj.1 (List.append_inj_right' hy rfl)]
    · -- put in decimal: what was read as a digit is neither a point nor a sign
      rw [hfilter] at hn
      obtain ⟨k, hk⟩ := exists_digitIn?_of_drop hn
      rcases endsElement_or_of_not_isBreak (hchars c (by simp)) with hc | rfl | rfl | rfl
      · exact hc
      · cases hk
      · cases hk
      · cases hk

/-! ## What is written and what it is loosened to -/

/-- Outlines of a literal and of what it is loosened to. -/
inductive Rewritten : List Char → List Char → Prop where
  | nil : Rewritten [] []
  /-- A comma is dropped in front of a closing bracket. -/
  | comma {x y : List Char} {c : Char} (hhead : (solid x).head? = some c) (hc : closes c = true)
      (h : Rewritten x y) : Rewritten (',' :: x) y
  | mark {x y : List Char} (c : Char) (h : Rewritten x y) : Rewritten (c :: x) (markText c :: y)
  | element {a b x y : List Char} (hab : Twins a b) (h : Rewritten x y) :
      Rewritten (a ++ x) (b ++ y)

theorem markText_cases (c : Char) :
    markText c = c ∨ (c = '(' ∧ markText c = '[') ∨ (c = ')' ∧ markText c = ']') := by
  unfold markText
  split
  · rename_i hc
    exact Or.inr (Or.inl ⟨hc, rfl⟩)
  · split
    · rename_i hc
      exact Or.inr (Or.inr ⟨hc, rfl⟩)
    · exact Or.inl rfl

/-- Loosening a mark keeps what it is here. -/
theorem facts_of_loosened_mark (c : Char) :
    opens (markText c) = opens c ∧ closes (markText c) = closes c
      ∧ endsElement (markText c) = endsElement c ∧ Text.isBlank (markText c) = Text.isBlank c := by
  rcases markText_cases c with h | ⟨rfl, h⟩ | ⟨rfl, h⟩
  · rw [h]
    exact ⟨rfl, rfl, rfl, rfl⟩
  · decide
  · decide

theorem isBlank_of_closes {c : Char} (h : closes c = true) : Text.isBlank c = false := by
  rw [← Bool.not_eq_true]
  intro hblank
  rw [closes_of_textIsBlank hblank] at h
  cases h

/-- A closing bracket that comes next is the next character that is no blank. -/
theorem head?_of_closesNext {A : List Lexeme} (h : closesNext A = true) :
    ∃ c, (solid (outlineOf A)).head? = some c ∧ closes c = true := by
  induction A with
  | nil => cases h
  | cons lexeme A ih =>
      cases lexeme with
      | string _ | number _ | word _ => cases h
      | mark c =>
          rw [closesNext, Bool.or_eq_true, Bool.and_eq_true] at h
          have houtline : outlineOf (.mark c :: A) = c :: outlineOf A := rfl
          rw [houtline]
          rcases h with hc | ⟨hc, hA⟩
          · exact ⟨c, by rw [solid_cons (isBlank_of_closes hc)]; rfl, hc⟩
          · rw [solid_blank hc]
            exact ih hA

/-- **A lexeme** has an outline, and its text in JSON has one that goes with it. -/
theorem Lexeme.rewritten {lexeme : Lexeme} (hvalid : lexeme.Valid) {t : List Char}
    (ht : lexeme.text? = some t) : ∃ o, outline? t = some o ∧
      ∀ {x y : List Char}, Rewritten x y → Rewritten (lexeme.outline ++ x) (o ++ y) := by
  cases lexeme with
  | string content =>
      cases ht
      exact ⟨['"'], outline?_quote content, .element twins_quote⟩
  | number text =>
      obtain ⟨htwins, hchars⟩ := twins_of_number hvalid ht
      have houtline := outline?_of_plain fun c hc => ne_quote_of_not_isBreak (hchars c hc)
      exact ⟨t, houtline, .element htwins⟩
  | word text =>
      obtain ⟨htwins, hchars⟩ := twins_of_word ht
      have houtline := outline?_of_plain fun c hc => ne_quote_of_not_isBreak (hchars c hc)
      exact ⟨t, houtline, .element htwins⟩
  | mark c =>
      cases ht
      refine ⟨[markText c], outline?_of_plain (List.forall_mem_singleton.2 ?_), .mark c⟩
      simp only [Lexeme.Valid, isMark, Bool.and_eq_true, bne_iff_ne] at hvalid
      rcases markText_cases c with h | ⟨-, h⟩ | ⟨-, h⟩
      · rw [h]
        exact hvalid.1.1
      · rw [h]
        decide
      · rw [h]
        decide

/-- **Loosening rewrites the outline.** -/
theorem exists_rewritten {A : List Lexeme} (hvalid : ∀ lexeme ∈ A, lexeme.Valid) {t : List Char}
    (ht : loosenLexemes? A = some t) :
    ∃ o, outline? t = some o ∧ Rewritten (outlineOf A) o := by
  induction A generalizing t with
  | nil =>
      cases ht
      exact ⟨[], rfl, .nil⟩
  | cons lexeme A ih =>
      obtain ⟨hfirst, hbehind⟩ := List.forall_mem_cons.1 hvalid
      rcases loosenLexemes?_cases ht with ⟨rfl, hnext, ht⟩ | ⟨front, rest, hfront, hrest, rfl⟩
      · obtain ⟨o, ho, h⟩ := ih hbehind ht
        obtain ⟨c, hhead, hc⟩ := head?_of_closesNext hnext
        exact ⟨o, ho, .comma hhead hc h⟩
      · obtain ⟨o, ho, h⟩ := ih hbehind hrest
        obtain ⟨o', ho', hlexeme⟩ := Lexeme.rewritten hfirst hfront
        refine ⟨o' ++ o, ?_, hlexeme h⟩
        rw [outline?_append ho', ho]
        rfl

/-! ## Back to what is written -/

theorem isLoosePair_of_markText {opening closing : Char}
    (h : isPair (markText opening) (markText closing) = true) :
    isLoosePair opening closing = true := by
  simp only [isPair, Bool.or_eq_true, Bool.and_eq_true, beq_iff_eq] at h
  simp only [isLoosePair, Bool.or_eq_true, Bool.and_eq_true, beq_iff_eq]
  grind [markText]

/-- **Brackets that are nested after loosening** were so before, round ones taken for square. -/
theorem Rewritten.nested {x y : List Char} (h : Rewritten x y) {stack : List Char}
    (hy : nestedFrom isPair (stack.map markText) y = true) :
    nestedFrom isLoosePair stack x = true := by
  induction h generalizing stack with
  | nil =>
      cases stack with
      | nil => rfl
      | cons => cases hy
  | comma _ _ _ ih => exact ih hy
  | @mark x y c _ ih =>
      obtain ⟨hopens, hcloses, -, -⟩ := facts_of_loosened_mark c
      cases ho : opens c with
      | true =>
          rw [nestedFrom_opens ho]
          rw [nestedFrom_opens (hopens.trans ho)] at hy
          exact ih hy
      | false =>
          cases hc : closes c with
          | false =>
              rw [nestedFrom_plain ho hc]
              rw [nestedFrom_plain (hopens.trans ho) (hcloses.trans hc)] at hy
              exact ih hy
          | true =>
              cases stack with
              | nil =>
                  rw [List.map_nil, nestedFrom_nil_closes (hopens.trans ho) (hcloses.trans hc)]
                    at hy
                  cases hy
              | cons opening stack =>
                  rw [List.map_cons, nestedFrom_closes (hopens.trans ho) (hcloses.trans hc),
                    Bool.and_eq_true] at hy
                  rw [nestedFrom_closes ho hc, isLoosePair_of_markText hy.1, ih hy.2]
                  rfl
  | element hab _ ih =>
      rw [nestedFrom_inner hab.left]
      rw [nestedFrom_inner hab.right] at hy
      exact ih hy

/-- A closing bracket that comes first does so after loosening. -/
theorem Rewritten.head? {x y : List Char} (h : Rewritten x y) {c : Char}
    (hx : (solid x).head? = some c) (hc : closes c = true) :
    (solid y).head? = some (markText c) := by
  induction h with
  | nil => cases hx
  | comma _ _ _ _ =>
      cases hx
      cases hc
  | @mark x y d _ ih =>
      obtain ⟨-, -, -, hblank⟩ := facts_of_loosened_mark d
      cases hd : Text.isBlank d with
      | true =>
          rw [solid_blank hd] at hx
          rw [solid_blank (hblank.trans hd)]
          exact ih hx
      | false =>
          rw [solid_cons hd] at hx
          cases hx
          rw [solid_cons (hblank.trans hd)]
          rfl
  | @element a b x y hab _ _ =>
      rw [solid_append_of_inner hab.left] at hx
      -- an element begins with no bracket
      obtain ⟨front, d, _, _, rfl, -, -⟩ := hab.last
      have hmem : c ∈ front ++ [d] := by
        cases front with
        | nil =>
            cases hx
            exact List.mem_singleton.2 rfl
        | cons =>
            cases hx
            exact List.mem_cons_self
      rw [(hab.left c hmem).closes] at hc
      cases hc

/-- The commas of a text are in place, given the character in front of it. -/
def CommasPlacedFrom : Char → List Char → Prop
  | _, [] => True
  | before, c :: s =>
    (c = ',' → endsElement before = true ∨
      opens before = true ∧ ∃ d, s.head? = some d ∧ closes d = true) ∧ CommasPlacedFrom c s

theorem commasPlacedFrom_cons {c : Char} (hc : c ≠ ',') {s : List Char}
    (h : CommasPlacedFrom c s) (before : Char) : CommasPlacedFrom before (c :: s) :=
  ⟨fun hcomma => absurd hcomma hc, h⟩

/-- What comes in front of a text does not matter if the text begins with no comma. -/
theorem CommasPlacedFrom.of_head {before : Char} {s : List Char} (h : CommasPlacedFrom before s)
    {c : Char} (hs : s.head? = some c) (hc : c ≠ ',') (before' : Char) :
    CommasPlacedFrom before' s := by
  cases s with
  | nil => trivial
  | cons d s =>
      cases hs
      exact commasPlacedFrom_cons hc h.2 before'

theorem commasPlacedFrom_inner {front s : List Char} {last : Char}
    (hinner : ∀ c ∈ front ++ [last], Inner c) (h : CommasPlacedFrom last s) (before : Char) :
    CommasPlacedFrom before (front ++ last :: s) := by
  induction front generalizing before with
  | nil => exact commasPlacedFrom_cons (hinner last (List.mem_singleton.2 rfl)).comma h before
  | cons c front ih =>
      refine commasPlacedFrom_cons (hinner c List.mem_cons_self).comma ?_ before
      exact ih (fun d hd => hinner d (List.mem_cons_of_mem _ hd)) c

/-- The last character before a comma, and what it has become: either may end an element or opens a
bracket if the other does. -/
structure Stands (before before' : Char) : Prop where
  ends : endsElement before' = true → endsElement before = true
  opens : opens before' = true → opens before = true

theorem stands_mark (c : Char) : Stands c (markText c) := by
  obtain ⟨hopens, -, hends, -⟩ := facts_of_loosened_mark c
  exact ⟨fun h => hends ▸ h, fun h => hopens ▸ h⟩

/-- **Commas that the reader of JSON takes** are in place in what is written, and so are those that
it does not see. -/
theorem Rewritten.commasPlaced {x y : List Char} (h : Rewritten x y) {before before' : Char}
    (hbefore : Stands before before') (hy : (before' :: solid y).IsChain MayFollow) :
    CommasPlacedFrom before (solid x) := by
  induction h generalizing before before' with
  | nil => trivial
  | @comma x y c hhead hc hxy ih =>
      have hx := ih hbefore hy
      -- the bracket behind the comma comes next for the reader of JSON
      have hfollows : MayFollow before' (markText c) := by
        obtain ⟨s, hs⟩ := List.head?_eq_some_iff.1 (hxy.head? hhead hc)
        rw [hs] at hy
        exact (List.isChain_cons_cons.1 hy).1
      have hne : c ≠ ',' := by
        rintro rfl
        cases hc
      rw [solid_cons (by decide)]
      refine ⟨fun _ => ?_, hx.of_head hhead hne ','⟩
      rcases hfollows.2 ((facts_of_loosened_mark c).2.1.trans hc) with hends | hopens
      · exact Or.inl (hbefore.ends hends)
      · exact Or.inr ⟨hbefore.opens hopens, c, hhead, hc⟩
  | @mark x y c _ ih =>
      obtain ⟨-, -, -, hblank⟩ := facts_of_loosened_mark c
      cases hc : Text.isBlank c with
      | true =>
          rw [solid_blank (hblank.trans hc)] at hy
          rw [solid_blank hc]
          exact ih hbefore hy
      | false =>
          rw [solid_cons (hblank.trans hc)] at hy
          obtain ⟨hfollows, hy⟩ := List.isChain_cons_cons.1 hy
          rw [solid_cons hc]
          refine ⟨?_, ih (stands_mark c) hy⟩
          rintro rfl
          exact Or.inl (hbefore.ends (hfollows.1 rfl))
  | @element a b x y hab _ ih =>
      rw [solid_append_of_inner hab.right] at hy
      rw [solid_append_of_inner hab.left]
      obtain ⟨front, c, front', d, rfl, rfl, hends⟩ := hab.last
      have hd := hab.right d (List.mem_append_right _ (List.mem_singleton.2 rfl))
      have hstands : Stands c d := ⟨hends, fun h => absurd (h.symm.trans hd.opens) (by decide)⟩
      rw [List.append_assoc] at hy ⊢
      exact commasPlacedFrom_inner hab.left (ih hstands (List.isChain_cons_split.1 hy).2) before

theorem commasAfterElementsOrAlone_of_placed {s : List Char} (h : CommasPlacedFrom ':' s) :
    CommasAfterElementsOrAlone s := by
  have hlast {back : List Char} : ∀ (front : List Char) (before : Char),
      CommasPlacedFrom before (front ++ ',' :: back) →
      ∃ c, (before :: front).getLast? = some c ∧ (endsElement c = true ∨
        opens c = true ∧ ∃ d, back.head? = some d ∧ closes d = true) := by
    intro front
    induction front with
    | nil => exact fun before h => ⟨before, rfl, h.1 rfl⟩
    | cons c front ih =>
        intro before h
        rw [List.getLast?_cons_cons]
        exact ih c h.2
  rintro front back rfl
  obtain ⟨c, hc, hplaced⟩ := hlast front ':' h
  cases front with
  | nil =>
      cases hc
      rcases hplaced with h | ⟨h, -⟩ <;> cases h
  | cons d front =>
      rw [List.getLast?_cons_cons] at hc
      exact ⟨c, hc, hplaced⟩

/-! ## Every literal -/

/-- Blanks are no part of a text that matters here. -/
theorem solid_blanks {b : List Char} (hb : b.all Text.isBlank = true) : solid b = [] := by
  refine List.filter_eq_nil_iff.2 fun c hc => ?_
  rw [List.all_eq_true.1 hb c hc]
  decide

theorem nestedFrom_solid (fits : Char → Char → Bool) (stack s : List Char) :
    nestedFrom fits stack (solid s) = nestedFrom fits stack s := by
  induction s generalizing stack with
  | nil => rfl
  | cons c s ih =>
      cases hc : Text.isBlank c with
      | true => rw [solid_blank hc, ih, nestedFrom_plain (opens_of_textIsBlank hc)
          (closes_of_textIsBlank hc)]
      | false =>
          rw [solid_cons hc]
          simp only [nestedFrom, ih]

/-- **A text of JSON** is well bracketed. -/
theorem wellBracketed_of_parse? {s : List Char} {v : Json} (h : parse? s = some v) :
    ∃ o, outline? s = some o ∧ WellBracketed (solid o) := by
  obtain ⟨o, ho, hnested, hchain⟩ := outline_of_parse? h
  exact ⟨o, ho, (nestedFrom_solid _ _ o).trans hnested, commasAfterElements_of_chain hchain⟩

/-- **A text that is loosened** is loosely bracketed. -/
theorem looselyBracketed_of_looseValue? {s : List Char} {v : Json} (h : looseValue? s = some v) :
    ∃ o, outline? s = some o ∧ LooselyBracketed (solid o) := by
  obtain ⟨t, ht, hv⟩ := Option.bind_eq_some_iff.1 h
  rw [loosen?_eq] at ht
  obtain ⟨A, hA, ht⟩ := Option.bind_eq_some_iff.1 ht
  obtain ⟨o, ho, hrewritten⟩ := exists_rewritten (valid_of_lexemes hA) ht
  obtain ⟨o', ho', hnested, hchain⟩ := outline_of_parse? hv
  cases Option.some.inj (ho.symm.trans ho')
  have hplaced := hrewritten.commasPlaced (stands_mark ':') hchain
  -- the blanks that trimming took off go back to the ends
  obtain ⟨a, b, hs, ha, hb⟩ := Text.exists_padding s
  have hplain {b : List Char} (hb : b.all Text.isBlank = true) : outline? b = some b := by
    refine outline?_of_plain fun c hc => ?_
    have hblank := List.all_eq_true.1 hb c hc
    exact ⟨Json.Lexer.ne_of_textIsBlank hblank (by decide),
      Json.Lexer.ne_of_textIsBlank hblank (by decide)⟩
  have hsolid : solid (a ++ (outlineOf A ++ b)) = solid (outlineOf A) := by
    rw [solid, List.filter_append, List.filter_append, ← solid, ← solid, ← solid, solid_blanks ha,
      solid_blanks hb, List.append_nil]
    rfl
  refine ⟨a ++ (outlineOf A ++ b), ?_, ?_, ?_⟩
  · rw [hs, List.append_assoc, outline?_append (hplain ha),
      outline?_append (outline?_of_lexemes hA), hplain hb]
    rfl
  · rw [hsolid, nestedFrom_solid]
    exact hrewritten.nested hnested
  · rw [hsolid]
    exact commasAfterElementsOrAlone_of_placed hplaced

/-- Brackets stay nested if more pairs fit, among the characters that are there. -/
theorem nestedFrom_mono {P : Char → Prop} {fits fits' : Char → Char → Bool}
    (himp : ∀ {opening closing}, P opening → P closing → fits opening closing = true →
      fits' opening closing = true) {stack s : List Char} (hstack : ∀ c ∈ stack, P c)
    (hs : ∀ c ∈ s, P c) (h : nestedFrom fits stack s = true) : nestedFrom fits' stack s = true := by
  induction s generalizing stack with
  | nil => exact h
  | cons c s ih =>
      obtain ⟨hc, hs⟩ := List.forall_mem_cons.1 hs
      cases hopens : opens c with
      | true =>
          rw [nestedFrom_opens hopens] at h ⊢
          exact ih (List.forall_mem_cons.2 ⟨hc, hstack⟩) hs h
      | false =>
          cases hcloses : closes c with
          | false =>
              rw [nestedFrom_plain hopens hcloses] at h ⊢
              exact ih hstack hs h
          | true =>
              cases stack with
              | nil =>
                  rw [nestedFrom_nil_closes hopens hcloses] at h
                  cases h
              | cons opening stack =>
                  rw [nestedFrom_closes hopens hcloses, Bool.and_eq_true] at h
                  obtain ⟨hopening, hstack⟩ := List.forall_mem_cons.1 hstack
                  rw [nestedFrom_closes hopens hcloses, himp hopening hc h.1, ih hstack hs h.2]
                  rfl

theorem isPair_of_isLoosePair {opening closing : Char} (h : isLoosePair opening closing = true)
    (hkind : OneKind [opening, closing]) : isPair opening closing = true := by
  simp only [isLoosePair, Bool.or_eq_true, Bool.and_eq_true, beq_iff_eq] at h
  simp only [isPair, Bool.or_eq_true, Bool.and_eq_true, beq_iff_eq]
  simp only [OneKind, List.mem_cons, List.not_mem_nil, or_false, forall_eq_or_imp, forall_eq]
    at hkind
  grind

theorem WellBracketed.loosely {s : List Char} (h : WellBracketed s) : LooselyBracketed s where
  nested := by
    refine nestedFrom_mono (P := fun _ => True) (fun _ _ hfits => ?_) (List.forall_mem_nil _)
      (fun _ _ => trivial) h.nested
    simp only [isPair, Bool.or_eq_true, Bool.and_eq_true, beq_iff_eq] at hfits
    simp only [isLoosePair, Bool.or_eq_true, Bool.and_eq_true, beq_iff_eq]
    grind
  commas front back hs := by
    obtain ⟨c, hc, hends⟩ := h.commas front back hs
    exact ⟨c, hc, Or.inl hends⟩

theorem LooselyBracketed.nested_of_oneKind {s : List Char} (h : LooselyBracketed s)
    (hkind : OneKind s) : nestedFrom isPair [] s = true := by
  rcases hkind with hround | hsquare
  · refine nestedFrom_mono (fun hopening hclosing hfits => ?_) (List.forall_mem_nil _) hround
      h.nested
    refine isPair_of_isLoosePair hfits (Or.inl ?_)
    exact List.forall_mem_cons.2 ⟨hopening, List.forall_mem_singleton.2 hclosing⟩
  · refine nestedFrom_mono (fun hopening hclosing hfits => ?_) (List.forall_mem_nil _) hsquare
      h.nested
    refine isPair_of_isLoosePair hfits (Or.inr ?_)
    exact List.forall_mem_cons.2 ⟨hopening, List.forall_mem_singleton.2 hclosing⟩

theorem opens_of_endsElement {c : Char} (h : endsElement c = true) : opens c = false := by
  rw [← Bool.not_eq_true]
  intro hopens
  simp only [opens, Bool.or_eq_true, beq_iff_eq] at hopens
  rcases hopens with (rfl | rfl) | rfl <;> cases h

theorem LooselyBracketed.commas_iff {s : List Char} (h : LooselyBracketed s) :
    CommasAfterElements s ↔ NoneAlone s := by
  constructor
  · intro hcommas front back hs c hc
    obtain ⟨d, hd, hends⟩ := hcommas front back hs
    cases Option.some.inj (hc.symm.trans hd)
    exact opens_of_endsElement hends
  · intro halone front back hs
    obtain ⟨c, hc, hends | ⟨hopens, -⟩⟩ := h.commas front back hs
    · exact ⟨c, hc, hends⟩
    · rw [halone front back hs c hc] at hopens
      cases hopens

/-- **What holds of the brackets and commas of every literal**, outside of its strings. Those of
JSON are well bracketed. Others have their brackets nested if there are not both round and square
ones, and their commas after elements exactly if none comes right after an opening bracket. -/
theorem parse_bracketed {literal : String} {v : Json} (h : parse literal = .ok v) :
    ∃ o, outline? literal.toList = some o ∧ LooselyBracketed (solid o)
      ∧ (parse? literal.toList ≠ none → WellBracketed (solid o))
      ∧ (OneKind (solid o) → nestedFrom isPair [] (solid o) = true)
      ∧ (CommasAfterElements (solid o) ↔ NoneAlone (solid o)) := by
  rcases value?_cases (parse_eq_ok_iff.1 h) with hjson | ⟨hnone, hloose⟩
  · obtain ⟨o, ho, hwell⟩ := wellBracketed_of_parse? hjson
    exact ⟨o, ho, hwell.loosely, fun _ => hwell, fun _ => hwell.nested, hwell.loosely.commas_iff⟩
  · obtain ⟨o, ho, hloosely⟩ := looselyBracketed_of_looseValue? hloose
    exact ⟨o, ho, hloosely, fun hjson => absurd hnone hjson, hloosely.nested_of_oneKind,
      hloosely.commas_iff⟩

/-- A tuple with a bracket in a string and a comma to spare. -/
theorem parse_bracketed_tuple :
    parse "(1, ']', ( ),)" = .ok (.array [Json.ofInt 1, .string "]", .array []])
      ∧ ∃ o, outline? "(1, ']', ( ),)".toList = some o ∧ LooselyBracketed (solid o)
        ∧ nestedFrom isPair [] (solid o) = true := by
  have hparse : parse "(1, ']', ( ),)" = .ok (.array [Json.ofInt 1, .string "]", .array []]) := by
    rfl
  obtain ⟨o, ho, hloosely, -, hnested, -⟩ := parse_bracketed hparse
  have hsquare : (solid o).all (fun c => c != '[' && c != ']') = true := by
    cases ho
    rfl
  exact ⟨hparse, o, ho, hloosely,
    hnested (Or.inr fun c hc => by simpa using List.all_eq_true.1 hsquare c hc)⟩

/-- A round bracket closed by a square one, and a comma that stands alone. -/
theorem not_parse_bracketed :
    (parse "(1]" = .ok (.array [Json.ofInt 1]) ∧ ∃ o, outline? "(1]".toList = some o
      ∧ nestedFrom isPair [] (solid o) = false)
    ∧ (parse "[,]" = .ok (.array []) ∧ ∃ o, outline? "[,]".toList = some o
      ∧ ¬ CommasAfterElements (solid o)) := by
  refine ⟨⟨by rfl, _, rfl, by decide⟩, ⟨by rfl, _, rfl, fun h => ?_⟩⟩
  obtain ⟨c, hc, hends⟩ := h ['['] [']'] rfl
  cases hc
  cases hends

end Switchboard.Literal
