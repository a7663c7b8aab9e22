import Switchboard.Proofs.Json.Reading
import Switchboard.Proofs.Literal.Spelling

/-!
# Spellings are decoded

Whoever spells a value loosely gets that value, if it is not nested too deep (`parse_of_spelling`).

The proof follows the spelling. `Loosens` says of a part of it what tokens it has after it was
loosened, and is put together the way spellings are; that these tokens are read as the value is then
a matter of `Reads`. A spelling that is JSON takes the other way, and `value_eq_of_plain` says that
it leads to the same place.
-/

namespace Switchboard.Literal

open Json.Lexer (StartsWithBreak startsWithBreak_cons isBreak)
open Json (Token tokenize ofTokens? parse? Reads ReadsItems ReadsMembers nestingLimit depthItems
  depthMembers)

/-! ## Parts of a spelling -/

/-- The text can be loosened to one with these tokens, and does not end in a comma. -/
structure Content (s : List Char) (A : List Lexeme) (t : List Char) (T : List Token) : Prop where
  lexemes : lexemes? s = some A
  comma : endsInComma A = false
  text : loosenLexemes? A = some t
  tokens : tokenize t = some T

/-- The text can be loosened to one with these tokens, whatever stands beside it. -/
def Loosens (s : List Char) (T : List Token) : Prop :=
  ∃ A t, Content s A t T ∧ Apart A

theorem Blanks.content {b : List Char} (h : Blanks b) : Content b (b.map .mark) b [] where
  lexemes := lexemes?_of_marks (all_isMark h)
  comma := endsInComma_blanks (all_textIsBlank h)
  text := loosenLexemes?_blanks (all_textIsBlank h)
  tokens := Json.Lexer.tokenize_of_blanks h

/-- Atoms may stand beside other lexemes. -/
theorem Atom.loosens {s : List Char} {A : List Lexeme} {t : List Char} {T : List Token}
    (h : Atom s A t) (ht : tokenize t = some T) : Loosens s T := by
  have hcloses := h.closesNext []
  have hcomma := h.endsInComma []
  have htext := h.text []
  rw [List.append_nil] at hcloses hcomma htext
  refine ⟨A, t, ⟨h.lexemes, hcomma, ?_, ht⟩, h.blank, hcloses, hcomma⟩
  rw [htext]
  exact congrArg some (List.append_nil t)

theorem loosens_of_lexeme {s t : List Char} {lexeme : Lexeme} {T : List Token}
    (hs : lexemes? s = some [lexeme]) (hmark : ∀ c, lexeme ≠ .mark c)
    (ht : lexeme.text? = some t) (hT : tokenize t = some T) : Loosens s T :=
  (atom_of_lexeme hs hmark ht).loosens hT

theorem loosens_ofInt {n : Int} (h : Json.Number.fits n = true) :
    Loosens (Decimal.ofInt n) [.number (.int n)] := by
  have htext := Json.ofText?_ofInt h
  obtain ⟨A, hatom⟩ := exists_atom_number htext
  exact hatom.loosens (Json.tokenize_number htext)

/-- Inside of quotes every character of a string is read as itself. -/
theorem lexemesFrom_spellChars (quote : Char) (s content t : List Char) :
    lexemesFrom (.string quote content) (s.flatMap (spellChar quote) ++ t)
      = lexemesFrom (.string quote (s.reverse ++ content)) t := by
  induction s generalizing content with
  | nil => rfl
  | cons c s ih =>
      have hchar : ∀ t, lexemesFrom (.string quote content) (spellChar quote c ++ t)
          = lexemesFrom (.string quote (c :: content)) t := by
        intro t
        by_cases hc : c = '\\' ∨ c = quote
        · have hbackslash : step '\\' (.string quote content) = ([], .escape quote content) := rfl
          have hescape : step c (.escape quote content) = ([], .string quote (c :: content)) := rfl
          rw [spellChar, if_pos hc, List.cons_append, List.singleton_append,
            lexemesFrom_of_step hbackslash, lexemesFrom_of_step hescape]
        · -- any other character is gathered as it is, control characters too
          have hne := not_or.1 hc
          have hstep : step c (.string quote content) = ([], .string quote (c :: content)) :=
            (if_neg hne.1).trans (if_neg hne.2)
          rw [spellChar, if_neg hc, List.singleton_append, lexemesFrom_of_step hstep]
      rw [List.flatMap_cons, List.append_assoc, hchar, ih, List.reverse_cons, List.append_assoc]
      rfl

/-- **A string in quotes is one lexeme.** -/
theorem lexemes?_spellString {quote : Char} (h : IsQuote quote) (s : List Char) :
    lexemes? (spellString quote s) = some [.string s] := by
  rw [spellString, lexemes?_quote h, lexemesFrom_spellChars, List.append_nil,
    lexemesFrom_closing h, List.reverse_reverse]
  rfl

theorem loosens_spellString {quote : Char} (h : IsQuote quote) (s : String) :
    Loosens (spellString quote s.toList) [.string s] := by
  have htokens := Json.tokenize_quote s.toList []
  rw [List.append_nil, String.ofList_toList] at htokens
  exact loosens_of_lexeme (lexemes?_spellString h s.toList) (fun _ h => by cases h) rfl htokens

/-! ## Parts put together -/

theorem lexemes?_padded {a s b : List Char} {A : List Lexeme} (ha : Blanks a) (hb : Blanks b)
    (h : lexemes? s = some A) :
    lexemes? (a ++ s ++ b) = some (a.map .mark ++ (A ++ b.map .mark)) := by
  rw [List.append_assoc, lexemes?_marks (all_isMark ha), lexemes?_append_blanks s hb, h]
  rfl

/-- Blanks around a part of a spelling change nothing. -/
theorem Loosens.padded {a s b : List Char} {T : List Token} (h : Loosens s T) (ha : Blanks a)
    (hb : Blanks b) : Loosens (a ++ s ++ b) T := by
  obtain ⟨A, t, hcontent, hapart⟩ := h
  have hlexemes := lexemes?_padded ha hb hcontent.lexemes
  have hcomma : endsInComma (a.map .mark ++ (A ++ b.map .mark)) = false := by
    rw [endsInComma_append, endsInComma_append, hapart.endsInComma,
      endsInComma_blanks (all_textIsBlank ha), endsInComma_blanks (all_textIsBlank hb)]
    rfl
  have hbefore := endsInComma_blanks (all_textIsBlank ha)
  have hafter := closesNext_blanks (all_textIsBlank hb)
  have htext : loosenLexemes? (a.map .mark ++ (A ++ b.map .mark)) = some (a ++ (t ++ b)) := by
    rw [loosenLexemes?_append (Or.inl hbefore), loosenLexemes?_append (Or.inr hafter),
      loosenLexemes?_blanks (all_textIsBlank ha), loosenLexemes?_blanks (all_textIsBlank hb),
      hcontent.text]
    rfl
  refine ⟨_, a ++ (t ++ b), ⟨hlexemes, hcomma, htext, ?_⟩, ⟨?_, ?_, hcomma⟩⟩
  · rw [Json.Lexer.tokenize_blanks ha, Json.Lexer.tokenize_append_blanks t hb, hcontent.tokens]
  · rw [List.all_append, List.all_append, hapart.blank]
    exact Bool.and_false _
  · rw [closesNext_append, closesNext_append, hapart.closesNext, hapart.blank,
      closesNext_blanks (all_textIsBlank ha)]
    exact Bool.and_false _

theorem SpelledKey.loosens {k : List Char} {key : String} (h : SpelledKey k key) :
    Loosens k [.string key] := by
  cases h with
  | key ha hquote hb => exact (loosens_spellString hquote key).padded ha hb

/-- Two parts with a comma or a colon between them. -/
theorem Loosens.separated {s t : List Char} {T U : List Token} {c : Char} {m : Token}
    (hs : Loosens s T) (ht : Loosens t U) (hm : Json.Lexer.mark? c = some m) :
    Loosens (s ++ c :: t) (T ++ m :: U) := by
  obtain ⟨A, a, hA, hapart⟩ := hs
  obtain ⟨B, b, hB, hapart'⟩ := ht
  obtain ⟨hmark, hopen, hclose, -, -, -⟩ := facts_of_mark hm
  have hbreak : isBreak c = true := Json.Lexer.isBreak_of_mark hm
  have hlexemes : lexemes? (s ++ c :: t) = some (A ++ .mark c :: B) := by
    rw [lexemes?_append hA.lexemes (startsWithBreak_cons hbreak t), lexemes?_mark hmark,
      hB.lexemes]
    rfl
  have hcomma : endsInComma (A ++ .mark c :: B) = false := by
    rw [endsInComma_append, endsInComma, hapart'.endsInComma, hapart'.blank, hapart.endsInComma,
      Bool.and_false]
    rfl
  have htext : loosenLexemes? (A ++ .mark c :: B) = some (a ++ c :: b) := by
    rw [loosenLexemes?_append (Or.inl hapart.endsInComma),
      loosenLexemes?_mark hopen hclose (Or.inr hapart'.closesNext), hA.text, hB.text]
    rfl
  refine ⟨_, a ++ c :: b, ⟨hlexemes, hcomma, htext, ?_⟩, ⟨?_, ?_, hcomma⟩⟩
  · rw [Json.Lexer.tokenize_append hA.tokens (startsWithBreak_cons hbreak b),
      Json.Lexer.tokenize_mark hm, hB.tokens]
    rfl
  · rw [List.all_append, hapart.blank, Bool.false_and]
  · rw [closesNext_append, hapart.closesNext, hapart.blank]
    rfl

/-- A bracket that closes, and what may stand in front of it, is loosened to that bracket. -/
structure Closing (r : List Char) (C : List Lexeme) (u : List Char) (m : Token) : Prop where
  lexemes : lexemes? r = some C
  blank : C.all Lexeme.isBlank = false
  comma : endsInComma C = false
  text : loosenLexemes? C = some u
  tokens : tokenize u = some [m]
  breaks : StartsWithBreak r ∧ StartsWithBreak u

theorem facts_of_markText {c : Char} {m : Token} (h : Json.Lexer.mark? (markText c) = some m) :
    isMark c = true ∧ isBreak c = true ∧ Text.isBlank c = false ∧ closes c = m.closes ∧
      (c = ',' → m = .comma) := by
  by_cases hopen : c = '('
  · subst hopen
    cases h
    decide
  · by_cases hclose : c = ')'
    · subst hclose
      cases h
      decide
    · rw [markText, if_neg hopen, if_neg hclose] at h
      obtain ⟨hmark, -, -, hblank, hcloses, hcomma⟩ := facts_of_mark h
      exact ⟨hmark, Json.Lexer.isBreak_of_mark h, hblank, hcloses, hcomma⟩

section
variable {b : List Char} {closing : Char} {m : Token}

theorem startsWithBreak_blanks (hb : Blanks b) {s : List Char} (hs : StartsWithBreak s) :
    StartsWithBreak (b ++ s) := by
  cases b with
  | nil => exact hs
  | cons c b =>
      have hc := List.all_eq_true.1 hb c List.mem_cons_self
      exact startsWithBreak_cons (Json.Lexer.isBreak_of_isBlank hc) (b ++ s)

theorem closing_of_blanks (hb : Blanks b) (hm : Json.Lexer.mark? (markText closing) = some m)
    (hcloses : m.closes = true) :
    Closing (b ++ [closing]) (b.map .mark ++ [.mark closing]) (b ++ [markText closing]) m := by
  obtain ⟨hmark, hbreak, hblank, -, hcomma⟩ := facts_of_markText hm
  have hne : closing ≠ ',' := by
    intro h
    rw [hcomma h] at hcloses
    cases hcloses
  have hlast : loosenLexemes? [.mark closing] = some [markText closing] :=
    loosenLexemes?_cons (Or.inl fun h => hne (Lexeme.mark.inj h))
  constructor
  · rw [lexemes?_marks (all_isMark hb), lexemes?_mark hmark]
    rfl
  · rw [List.all_append, List.all_cons, Lexeme.isBlank, hblank]
    exact Bool.and_false _
  · rw [endsInComma_append, endsInComma, beq_eq_false_iff_ne.2 fun h => hne (Lexeme.mark.inj h),
      endsInComma_blanks (all_textIsBlank hb)]
    rfl
  · rw [loosenLexemes?_append (Or.inl (endsInComma_blanks (all_textIsBlank hb))),
      loosenLexemes?_blanks (all_textIsBlank hb), hlast]
    rfl
  · rw [Json.Lexer.tokenize_blanks hb, Json.Lexer.tokenize_mark hm]
    rfl
  · exact ⟨startsWithBreak_blanks hb (startsWithBreak_cons hbreak []),
      startsWithBreak_blanks hb (startsWithBreak_cons (Json.Lexer.isBreak_of_mark hm) [])⟩

/-- **A comma before the bracket** is dropped. -/
theorem Ending.exists_closing {e : List Char} (he : Ending e)
    (hm : Json.Lexer.mark? (markText closing) = some m) (hcloses : m.closes = true) :
    ∃ C u, Closing (e ++ [closing]) C u m := by
  cases he with
  | nothing => exact ⟨_, _, closing_of_blanks rfl hm hcloses⟩
  | @comma b hb =>
      have h := closing_of_blanks hb hm hcloses
      obtain ⟨-, -, -, hcloses', -⟩ := facts_of_markText hm
      have hblank : (b.map Lexeme.mark).all Lexeme.isBlank = true := by
        rw [List.all_map]
        exact all_textIsBlank hb
      have hnext : closesNext (b.map .mark ++ [.mark closing]) = true := by
        rw [closesNext_append, hblank, closesNext, hcloses', hcloses]
        exact Bool.or_true _
      -- the blanks after the comma are kept, the comma is not
      have hdrop : loosenLexemes? (.mark ',' :: (b.map .mark ++ [.mark closing]))
          = loosenLexemes? (b.map .mark ++ [.mark closing]) := by
        rw [loosenLexemes?, dropTrailingCommas, if_pos ⟨rfl, hnext⟩]
        rfl
      refine ⟨.mark ',' :: (b.map .mark ++ [.mark closing]), _, ?_, ?_, ?_, hdrop.trans h.text,
        h.tokens, startsWithBreak_cons (by decide) _, h.breaks.2⟩
      · rw [List.cons_append, lexemes?_mark (by decide), h.lexemes]
        rfl
      · rw [List.all_cons, h.blank, Bool.and_false]
      · rw [endsInComma, h.comma, h.blank]
        rfl

end

/-- **A part in brackets**, with a comma at its end or without. -/
theorem Content.enclosed {s e : List Char} {A : List Lexeme} {t : List Char} {T : List Token}
    {opening closing : Char} {m m' : Token} (h : Content s A t T) (he : Ending e)
    (hm : Json.Lexer.mark? (markText opening) = some m) (hopens : m.opens = true)
    (hm' : Json.Lexer.mark? (markText closing) = some m') (hcloses : m'.closes = true) :
    Loosens (opening :: (s ++ e ++ [closing])) (m :: (T ++ [m'])) := by
  obtain ⟨C, u, hC⟩ := he.exists_closing hm' hcloses
  obtain ⟨hmark, -, hblank, hcloses', hcomma⟩ := facts_of_markText hm
  have hne : opening ≠ ',' := by
    intro h
    rw [hcomma h] at hopens
    cases hopens
  have hopening : closes opening = false := by
    rw [hcloses']
    cases m <;> first | rfl | cases hopens
  have hlexemes : lexemes? (opening :: (s ++ e ++ [closing]))
      = some (.mark opening :: (A ++ C)) := by
    rw [lexemes?_mark hmark, List.append_assoc, lexemes?_append h.lexemes hC.breaks.1, hC.lexemes]
    rfl
  have hends : endsInComma (.mark opening :: (A ++ C)) = false := by
    rw [endsInComma, endsInComma_append, hC.comma, h.comma,
      beq_eq_false_iff_ne.2 fun h => hne (Lexeme.mark.inj h)]
    rfl
  have htext : loosenLexemes? (.mark opening :: (A ++ C))
      = some (markText opening :: (t ++ u)) := by
    rw [loosenLexemes?_cons (Or.inl fun h => hne (Lexeme.mark.inj h)),
      loosenLexemes?_append (Or.inl h.comma), h.text, hC.text]
    rfl
  refine ⟨_, _, ⟨hlexemes, hends, htext, ?_⟩, ⟨?_, ?_, hends⟩⟩
  · rw [Json.Lexer.tokenize_mark hm, Json.Lexer.tokenize_append h.tokens hC.breaks.2, hC.tokens]
    rfl
  · rw [List.all_cons, Lexeme.isBlank, hblank, Bool.false_and]
  · rw [closesNext, hopening, hblank]
    rfl

theorem Content.inBrackets {s e : List Char} {A : List Lexeme} {t : List Char} {T : List Token}
    {opening closing : Char} (h : Content s A t T) (hbrackets : Brackets opening closing)
    (he : Ending e) :
    Loosens (opening :: (s ++ e ++ [closing])) (.openArray :: (T ++ [.closeArray])) := by
  cases hbrackets with
  | square => exact h.enclosed he rfl rfl rfl rfl
  | round => exact h.enclosed he rfl rfl rfl rfl

theorem Content.inBraces {s e : List Char} {A : List Lexeme} {t : List Char} {T : List Token}
    (h : Content s A t T) (he : Ending e) :
    Loosens ('\x7b' :: (s ++ e ++ ['\x7d'])) (.openObject :: (T ++ [.closeObject])) :=
  h.enclosed he rfl rfl rfl rfl

/-! ## Spellings -/

/-- The text can be loosened to one that is read as the value. -/
def Decodes (s : List Char) (v : Json) : Prop := ∃ T, Loosens s T ∧ Reads v.depth T v

theorem depthMembers_perm {ps qs : List (String × Json)} (h : ps.Perm qs) :
    depthMembers ps = depthMembers qs := by
  induction h with
  | nil => rfl
  | cons p _ ih => rw [depthMembers, depthMembers, ih]
  | swap p q ps =>
      rw [depthMembers, depthMembers, depthMembers, depthMembers]
      exact Nat.max_left_comm _ _ _
  | trans _ _ ih ih' => rw [ih, ih']

mutual

/-- **A spelling can be loosened** to a text that is read as the value it spells. -/
theorem Spelling.decodes {s : List Char} {v : Json} : Spelling s v → Decodes s v
  | .none => ⟨[.null], loosens_of_lexeme rfl (fun _ h => by cases h) rfl rfl,
      .atom rfl fun _ => rfl⟩
  | .wordTrue => ⟨[.bool true], loosens_of_lexeme rfl (fun _ h => by cases h) rfl rfl,
      .atom rfl fun _ => rfl⟩
  | .wordFalse => ⟨[.bool false], loosens_of_lexeme rfl (fun _ h => by cases h) rfl rfl,
      .atom rfl fun _ => rfl⟩
  | .int hfits => ⟨_, loosens_ofInt hfits, .atom rfl fun _ => rfl⟩
  | .string hquote => ⟨_, loosens_spellString hquote _, .atom rfl fun _ => rfl⟩
  | .emptyArray hbrackets hb => by
      have hloosens := hb.content.inBrackets hbrackets .nothing
      rw [List.append_nil] at hloosens
      exact ⟨_, hloosens, Json.reads_emptyArray⟩
  | .array hbrackets hitems he => by
      obtain ⟨T, ⟨A, t, hcontent, -⟩, hreads⟩ := hitems.decodes
      exact ⟨_, hcontent.inBrackets hbrackets he, hreads.array⟩
  | .emptyObject hb => by
      have hloosens := hb.content.inBraces .nothing
      rw [List.append_nil] at hloosens
      exact ⟨_, hloosens, Json.reads_emptyObject⟩
  | .object hmembers hperm hsorted he => by
      obtain ⟨T, ⟨A, t, hcontent, -⟩, hreads⟩ := hmembers.decodes
      have hobject := hreads.object
      rw [Entries.ofList_eq_of_perm hperm hsorted, depthMembers_perm hperm] at hobject
      exact ⟨_, hcontent.inBraces he, hobject⟩
  | .padded ha hs hb => by
      obtain ⟨T, hloosens, hreads⟩ := hs.decodes
      exact ⟨T, hloosens.padded ha hb, hreads⟩

theorem SpelledItems.decodes {s : List Char} {vs : List Json} :
    SpelledItems s vs → ∃ T, Loosens s T ∧ ReadsItems (depthItems vs) T vs
  | .one hs => by
      obtain ⟨T, hloosens, hreads⟩ := hs.decodes
      rw [depthItems, depthItems, Nat.max_zero]
      exact ⟨T, hloosens, .one hreads⟩
  | .more hs ht => by
      obtain ⟨T, hloosens, hreads⟩ := hs.decodes
      obtain ⟨U, hloosens', hreads'⟩ := ht.decodes
      exact ⟨_, hloosens.separated hloosens' rfl, .more hreads hreads'⟩

theorem SpelledMembers.decodes {s : List Char} {ps : List (String × Json)} :
    SpelledMembers s ps → ∃ T, Loosens s T ∧ ReadsMembers (depthMembers ps) T ps
  | .one hkey hs => by
      obtain ⟨T, hloosens, hreads⟩ := hs.decodes
      rw [depthMembers, depthMembers, Nat.max_zero]
      exact ⟨_, hkey.loosens.separated hloosens rfl, .one hreads⟩
  | .more hkey hs ht => by
      obtain ⟨T, hloosens, hreads⟩ := hs.decodes
      obtain ⟨U, hloosens', hreads'⟩ := ht.decodes
      exact ⟨_, (hkey.loosens.separated hloosens rfl).separated hloosens' rfl, .more hreads hreads'⟩

end

theorem Decodes.exists_text {s : List Char} {v : Json} (h : Decodes s v)
    (hdepth : v.depth ≤ nestingLimit) : ∃ t, loosenAll? s = some t ∧ parse? t = some v := by
  obtain ⟨T, ⟨A, t, hcontent, -⟩, hreads⟩ := h
  refine ⟨t, ?_, ?_⟩
  · rw [loosenAll?, hcontent.lexemes, Option.bind_some, hcontent.text]
  · rw [parse?, hcontent.tokens, Option.bind_some, hreads.ofTokens?_eq, if_pos hdepth]

/-- A plain text that can be loosened to a value is a literal of that value, also where it is
JSON as well. -/
theorem Decodes.value?_eq {s : List Char} {v : Json} (h : Decodes s v) (hplain : Plain s = true)
    (hends : BlankEnds s) (hdepth : v.depth ≤ nestingLimit) : value? s = some v := by
  obtain ⟨t, hall, hparse⟩ := h.exists_text hdepth
  have hloose : looseValue? s = some v := by
    rw [looseValue?_eq hends, hall, Option.bind_some, hparse]
  have hvalue : value? s = (parse? s).or (looseValue? s) := rfl
  rw [hvalue]
  cases hw : parse? s with
  | none => rw [Option.none_or, hloose]
  | some w =>
      -- the text is JSON as well, and a plain one
      rw [Option.some_or, value_eq_of_plain hplain hw hall hparse]

/-- `parse_of_spelling`, on lists of characters. -/
theorem value?_of_spelling {s : List Char} {v : Json} (h : Spelling s v)
    (hdepth : v.depth ≤ nestingLimit) : value? s = some v :=
  h.decodes.value?_eq h.plain h.blankEnds hdepth

/-- **Whoever spells a value loosely** gets that value, if it is not nested deeper than arrays and
objects may be. -/
theorem parse_of_spelling {literal : String} {v : Json} (h : Spelling literal.toList v)
    (hdepth : v.depth ≤ 127) : parse literal = .ok v :=
  parse_eq_ok_iff.2 (value?_of_spelling h hdepth)

/-- A tuple with a bracket, a quote and a comma in a string, with members that are not in order, and
with two commas to spare. -/
theorem parse_of_spelling_tuple :
    parse "('it\\'s [,',\x7b\"b\":None, 'a' :-5,\x7d, ) "
      = .ok (.array [.string "it's [,", .object [("a", Json.ofInt (-5)), ("b", .null)]]) := by
  have hnone : Blanks [] := rfl
  have hblank : Blanks [' '] := rfl
  have hb : SpelledKey ([] ++ spellString '"' "b".toList ++ []) "b" := .key hnone (Or.inr rfl) hnone
  have ha : SpelledKey ([' '] ++ spellString '\'' "a".toList ++ [' ']) "a" :=
    .key hblank (Or.inl rfl) hblank
  have hfits : Json.Number.fits (-5) = true := rfl
  have hmembers := SpelledMembers.more hb .none (.one ha (.int hfits))
  have hsorted : Entries.Sorted [("a", Json.ofInt (-5)), ("b", .null)] := by
    refine List.pairwise_pair.2 ?_
    decide
  have hobject := Spelling.object hmembers (.swap _ _ _) hsorted (.comma hnone)
  have hstring : Spelling (spellString '\'' "it's [,".toList) (.string "it's [,") :=
    .string (Or.inl rfl)
  have hitems := SpelledItems.more hstring (.one hobject)
  have htuple := Spelling.array .round hitems (.comma hblank)
  exact parse_of_spelling (htuple.padded hnone hblank) (by decide)

end Switchboard.Literal
