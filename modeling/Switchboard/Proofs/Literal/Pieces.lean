import Switchboard.Proofs.Literal.Loosening
import Switchboard.Proofs.Literal.TwoReadings

/-!
# JSON that is loosened

A text that is JSON may still be loosened, namely where it stands in an array beside a literal that
is not. `Pieces` takes such a text apart, with what each piece is read as in either reading, and
`Pieces.loosened` says what becomes of it: the kinds of its tokens stay, only what its strings say
may change. A text with one of the words `null`, `true` and `false` is not loosened at all.
-/

namespace Switchboard.Literal

open Json (Token tokenize ofTokens? parse? NumberParts)
open Json.Lexer (StartsWithBreak isBreak startsWithBreak_cons)

/-- A text made of pieces of JSON, with what it is read as and what it is read as after it was
loosened. -/
inductive Pieces : List Char → List Token → List Token → Prop where
  | nil : Pieces [] [] []
  | blank {c : Char} {s : List Char} {T U : List Token} : Json.Lexer.isBlank c = true →
      Pieces s T U → Pieces (c :: s) T U
  | mark {c : Char} {m : Token} {s : List Char} {T U : List Token} :
      Json.Lexer.mark? c = some m → Pieces s T U → Pieces (c :: s) (m :: T) (m :: U)
  | string {body x y s : List Char} {T U : List Token} : Body body x y → Pieces s T U →
      Pieces ('"' :: (body ++ '"' :: s)) (.string (String.ofList x) :: T)
        (.string (String.ofList y) :: U)
  | number {text : List Char} {n : Json.Number} {s : List Char} {T U : List Token} :
      Json.Number.ofText? text = some n → StartsWithBreak s → Pieces s T U →
      Pieces (text ++ s) (.number n :: T) (.number n :: U)
  | word {text : List Char} {w : Token} {s : List Char} {T U : List Token} :
      Json.Lexer.wordToken? text = some w → StartsWithBreak s → Pieces s T U →
      Pieces (text ++ s) (w :: T) (w :: U)

/-! ## Taking a text apart -/

theorem separates_of_word {text : List Char} {w : Token}
    (h : Json.Lexer.wordToken? text = some w) : w.separates = false := by
  rcases Json.Lexer.wordToken?_cases h with ⟨-, rfl⟩ | ⟨-, rfl⟩ | ⟨-, rfl⟩ <;> rfl

/-- After a number or a word there comes no other. -/
theorem startsWithBreak_of_follows {t : Token} {s : List Char} {T : List Token}
    (ht : ∀ u, t.follows u → u.separates = true) (hs : tokenize s = some T)
    (hchain : (t :: T).IsChain Token.follows) : StartsWithBreak s := by
  intro c hc
  obtain ⟨s, rfl⟩ : ∃ rest, s = c :: rest := by
    cases s with
    | nil => cases hc
    | cons d rest => exact ⟨rest, by rw [Option.some.inj hc]⟩
  have hnot : ∀ u U, T = u :: U → u.separates = false → False := by
    rintro u U rfl hu
    have hfollows := (List.isChain_cons_cons.1 hchain).1
    exact Bool.false_ne_true (hu.symm.trans (ht u hfollows))
  rw [tokenize, Json.Lexer.runFrom, Json.Lexer.step] at hs
  obtain ⟨⟨out, next⟩, hstart, hrest⟩ := Option.bind_eq_some_iff.1 hs
  obtain ⟨more, hmore, rfl⟩ := Option.map_eq_some_iff.1 hrest
  cases Json.Lexer.began_of_start hstart with
  | blank hblank => exact Json.Lexer.isBreak_of_isBlank hblank
  | mark hmark => exact Json.Lexer.isBreak_of_mark hmark
  | string hquote =>
      rw [hquote]
      decide
  | number hdigit =>
      obtain ⟨digits, rest, n, more', -, -, -, rfl⟩ := Json.Lexer.number_split hmore
      exact (hnot (.number n) more' rfl rfl).elim
  | word hword =>
      obtain ⟨letters, rest, w, more', -, hw, -, rfl⟩ := Json.Lexer.word_split hmore
      exact (hnot w more' rfl (separates_of_word hw)).elim

theorem follows_number {n : Json.Number} {u : Token} (h : (Token.number n).follows u) :
    u.separates = true := h

theorem follows_word {text : List Char} {w u : Token}
    (hw : Json.Lexer.wordToken? text = some w) (h : w.follows u) : u.separates = true := by
  rcases Json.Lexer.wordToken?_cases hw with ⟨-, rfl⟩ | ⟨-, rfl⟩ | ⟨-, rfl⟩ <;> exact h

/-- **A text of JSON is made of pieces.** -/
theorem exists_pieces {s : List Char} {T : List Token} (h : tokenize s = some T)
    (hchain : T.IsChain Token.follows) : ∃ U, Pieces s T U := by
  induction hlength : s.length using Nat.strongRecOn generalizing s T with
  | ind length ih =>
    cases s with
    | nil =>
        cases Option.some.inj h
        exact ⟨[], .nil⟩
    | cons c s =>
        have htokens := h
        rw [tokenize, Json.Lexer.runFrom, Json.Lexer.step] at h
        obtain ⟨⟨out, next⟩, hstart, hrest⟩ := Option.bind_eq_some_iff.1 h
        obtain ⟨more, hmore, rfl⟩ := Option.map_eq_some_iff.1 hrest
        rw [List.length_cons] at hlength
        cases Json.Lexer.began_of_start hstart with
        | blank hblank =>
            obtain ⟨U, hU⟩ := ih s.length (by omega) hmore hchain rfl
            exact ⟨U, .blank hblank hU⟩
        | mark hmark =>
            obtain ⟨U, hU⟩ := ih s.length (by omega) hmore hchain.tail rfl
            exact ⟨_, .mark hmark hU⟩
        | string hquote =>
            subst hquote
            -- the string is split off as a whole, so the induction is on the length of the text
            obtain ⟨body, rest, x, y, V, rfl, hbody, hV, hT⟩ := string_split htokens
            rw [hT] at hchain ⊢
            rw [List.length_append, List.length_cons] at hlength
            obtain ⟨U, hU⟩ := ih rest.length (by omega) hV hchain.tail rfl
            exact ⟨_, .string hbody hU⟩
        | number hdigit =>
            obtain ⟨digits, rest, n, V, rfl, hn, hV, rfl⟩ := Json.Lexer.number_split hmore
            rw [List.length_append] at hlength
            obtain ⟨U, hU⟩ := ih rest.length (by omega) hV hchain.tail rfl
            have hbreak := startsWithBreak_of_follows (fun _ => follows_number) hV hchain
            have hpieces : Pieces ((c :: digits) ++ rest) (.number n :: V) (.number n :: U) :=
              .number hn hbreak hU
            exact ⟨_, hpieces⟩
        | word hword =>
            obtain ⟨letters, rest, w, V, rfl, hw, hV, rfl⟩ := Json.Lexer.word_split hmore
            rw [List.length_append] at hlength
            obtain ⟨U, hU⟩ := ih rest.length (by omega) hV hchain.tail rfl
            have hbreak := startsWithBreak_of_follows (fun _ => follows_word hw) hV hchain
            have hpieces : Pieces ((c :: letters) ++ rest) (w :: V) (w :: U) :=
              .word hw hbreak hU
            exact ⟨_, hpieces⟩

namespace Pieces

theorem kind_eq {s : List Char} {T U : List Token} (h : Pieces s T U) :
    T.map Token.kind = U.map Token.kind := by
  induction h with
  | nil => rfl
  | blank _ _ ih => exact ih
  | mark _ _ ih | number _ _ _ ih | word _ _ _ ih => rw [List.map_cons, List.map_cons, ih]
  | string _ _ ih =>
      rw [List.map_cons, List.map_cons, ih]
      rfl

end Pieces

/-! ## Loosening -/

/-- A string of JSON is one lexeme. -/
theorem lexemes?_body {body x y s : List Char} {A : List Lexeme} (hbody : Body body x y)
    (hs : lexemes? s = some A) :
    lexemes? ('"' :: (body ++ '"' :: s)) = some (.string y :: A) := by
  rw [lexemes?_quote (Or.inr rfl), lexemesFrom_append, hbody.loose,
    lexemesFrom_closing (Or.inr rfl), hs, List.reverse_reverse]
  rfl

/-- The lexemes of a text of JSON beside its tokens. -/
inductive Aligned : List Token → List Lexeme → Prop where
  | nil : Aligned [] []
  | blank {c : Char} {T : List Token} {A : List Lexeme} : Json.Lexer.isBlank c = true →
      Aligned T A → Aligned T (.mark c :: A)
  | mark {c : Char} {m : Token} {T : List Token} {A : List Lexeme} :
      Json.Lexer.mark? c = some m → Aligned T A → Aligned (m :: T) (.mark c :: A)
  | string {s : String} {y : List Char} {T : List Token} {A : List Lexeme} : Aligned T A →
      Aligned (.string s :: T) (.string y :: A)
  | number {sign unsigned : List Char} {n : Json.Number} {T : List Token} {A : List Lexeme} :
      (sign = [] ∨ sign = ['-']) → unsigned.all Json.Lexer.isNumberChar = true →
      Json.Number.ofText? (sign ++ unsigned) = some n → Aligned T A →
      Aligned (.number n :: T) (sign.map .mark ++ .number unsigned :: A)
  | word {text : List Char} {w : Token} {T : List Token} {A : List Lexeme} :
      Json.Lexer.wordToken? text = some w → Aligned T A → Aligned (w :: T) (.word text :: A)

/-- A number of JSON is one lexeme, with its sign in front of it. -/
theorem exists_lexemes_number {text : List Char} {n : Json.Number}
    (hn : Json.Number.ofText? text = some n) :
    ∃ sign unsigned, text = sign ++ unsigned ∧ (sign = [] ∨ sign = ['-'])
      ∧ unsigned.all Json.Lexer.isNumberChar = true
      ∧ lexemes? text = some (sign.map .mark ++ [.number unsigned]) := by
  obtain ⟨sign, whole, fraction, exponent, htext, hparts⟩ := Json.Number.parts_of_ofText? hn
  rw [List.append_assoc, List.append_assoc, ← List.append_assoc whole] at htext
  refine ⟨sign, _, htext, hparts.sign, hparts.all_isNumberChar_unsigned, ?_⟩
  have hmarks : sign.all isMark = true := by
    rcases hparts.sign with rfl | rfl <;> rfl
  rw [htext, lexemes?_marks hmarks, lexemes?_unsigned hparts]
  rfl

/-- **Lexemes and tokens of a text of JSON** go side by side. -/
theorem Pieces.exists_aligned {s : List Char} {T U : List Token} (h : Pieces s T U) :
    ∃ A, lexemes? s = some A ∧ Aligned T A := by
  induction h with
  | nil => exact ⟨[], rfl, .nil⟩
  | blank hc _ ih =>
      obtain ⟨A, hA, haligned⟩ := ih
      refine ⟨_, ?_, .blank hc haligned⟩
      rw [lexemes?_mark (isMark_of_isBlank hc), hA]
      rfl
  | mark hm _ ih =>
      obtain ⟨A, hA, haligned⟩ := ih
      refine ⟨_, ?_, .mark hm haligned⟩
      rw [lexemes?_mark (facts_of_mark hm).1, hA]
      rfl
  | string hbody _ ih =>
      obtain ⟨A, hA, haligned⟩ := ih
      exact ⟨_, lexemes?_body hbody hA, .string haligned⟩
  | number hn hbreak _ ih =>
      obtain ⟨A, hA, haligned⟩ := ih
      obtain ⟨sign, unsigned, rfl, hsign, hchars, hlexemes⟩ := exists_lexemes_number hn
      refine ⟨_, ?_, .number hsign hchars hn haligned⟩
      rw [lexemes?_append hlexemes hbreak, hA, Option.map_some, List.append_assoc]
      rfl
  | word hw hbreak _ ih =>
      obtain ⟨A, hA, haligned⟩ := ih
      refine ⟨_, ?_, .word hw haligned⟩
      rw [lexemes?_append (lexemes?_word hw).1 hbreak, hA]
      rfl

/-- The lexemes of a text of JSON, and what the text is read as after it was loosened. -/
structure Loosened (s : List Char) (T U : List Token) (A : List Lexeme) : Prop where
  lexemes : lexemes? s = some A
  blank : A.all Lexeme.isBlank = true → T = []
  closes : closesNext A = true → ∃ t ∈ T.head?, t.closes = true
  comma : endsInComma A = true → T.getLast? = some .comma
  text : ∀ t, loosenLexemes? A = some t →
    tokenize t = some U ∧ (StartsWithBreak s → StartsWithBreak t)

namespace Loosened

variable {s : List Char} {T U : List Token} {A : List Lexeme}

theorem nil : Loosened [] [] [] [] where
  lexemes := rfl
  blank := fun _ => rfl
  closes := fun h => by cases h
  comma := fun h => by cases h
  text := by
    intro t ht
    cases Option.some.inj ht
    exact ⟨rfl, id⟩

theorem consBlank {c : Char} (hc : Json.Lexer.isBlank c = true) (h : Loosened s T U A) :
    Loosened (c :: s) T U (.mark c :: A) := by
  have htext := Json.Lexer.textIsBlank_of_isBlank hc
  constructor
  · rw [lexemes?_mark (isMark_of_isBlank hc), h.lexemes]
    rfl
  · intro hall
    rw [List.all_cons, Bool.and_eq_true] at hall
    exact h.blank hall.2
  · intro hcloses
    rw [closesNext, closes_of_textIsBlank htext, htext] at hcloses
    exact h.closes hcloses
  · intro hcomma
    rw [endsInComma, Bool.or_eq_true, Bool.and_eq_true, beq_iff_eq] at hcomma
    rcases hcomma with hcomma | ⟨hcomma, -⟩
    · exact h.comma hcomma
    · rw [Lexeme.mark.inj hcomma] at htext
      exact absurd htext (by decide)
  · intro t ht
    rw [loosenLexemes?_blank htext] at ht
    obtain ⟨rest, hrest, rfl⟩ := Option.map_eq_some_iff.1 ht
    refine ⟨?_, ?_⟩
    · rw [Json.Lexer.tokenize_blank hc]
      exact (h.text rest hrest).1
    · exact fun _ => startsWithBreak_cons (Json.Lexer.isBreak_of_isBlank hc) rest

theorem consMark {c : Char} {m : Token} (hm : Json.Lexer.mark? c = some m)
    (hchain : (m :: T).IsChain Token.follows) (h : Loosened s T U A) :
    Loosened (c :: s) (m :: T) (m :: U) (.mark c :: A) := by
  obtain ⟨hmark, hopen, hclose, hblank, hcloses, hcomma⟩ := facts_of_mark hm
  constructor
  · rw [lexemes?_mark hmark, h.lexemes]
    rfl
  · intro hall
    rw [List.all_cons, Lexeme.isBlank, hblank] at hall
    cases hall
  · intro hnext
    rw [closesNext, hblank, Bool.false_and, Bool.or_false, hcloses] at hnext
    exact ⟨m, rfl, hnext⟩
  · intro hends
    rw [endsInComma, Bool.or_eq_true, Bool.and_eq_true, beq_iff_eq] at hends
    rcases hends with hends | ⟨hc, hall⟩
    · rw [List.getLast?_cons, h.comma hends]
      rfl
    · rw [h.blank hall, hcomma (Lexeme.mark.inj hc)]
      rfl
  · intro t ht
    have hkeep : c ≠ ',' ∨ closesNext A = false := by
      by_cases hc : c = ','
      · -- a comma before a closing bracket is no JSON
        refine Or.inr ((Bool.not_eq_true _).mp fun hnext => ?_)
        obtain ⟨u, hu, hcloses⟩ := h.closes hnext
        obtain ⟨T, rfl⟩ := List.head?_eq_some_iff.1 hu
        have hfollows := (List.isChain_cons_cons.1 hchain).1
        rw [hcomma hc] at hfollows
        exact Bool.false_ne_true (hfollows.symm.trans hcloses)
      · exact Or.inl hc
    rw [loosenLexemes?_mark hopen hclose hkeep] at ht
    obtain ⟨rest, hrest, rfl⟩ := Option.map_eq_some_iff.1 ht
    refine ⟨?_, ?_⟩
    · rw [Json.Lexer.tokenize_mark hm, (h.text rest hrest).1]
      rfl
    · exact fun _ => startsWithBreak_cons (Json.Lexer.isBreak_of_mark hm) rest

theorem consString {body x y : List Char} (hbody : Body body x y) (h : Loosened s T U A) :
    Loosened ('"' :: (body ++ '"' :: s)) (.string (String.ofList x) :: T)
      (.string (String.ofList y) :: U) (.string y :: A) := by
  constructor
  · exact lexemes?_body hbody h.lexemes
  · intro hall
    cases hall
  · intro hnext
    cases hnext
  · intro hends
    rw [endsInComma, Bool.or_eq_true, Bool.and_eq_true, beq_iff_eq] at hends
    rcases hends with hends | ⟨hc, -⟩
    · rw [List.getLast?_cons, h.comma hends]
      rfl
    · cases hc
  · intro t ht
    rw [loosenLexemes?_cons (Or.inl fun h => by cases h), Lexeme.text?, Option.bind_some] at ht
    obtain ⟨rest, hrest, rfl⟩ := Option.map_eq_some_iff.1 ht
    refine ⟨?_, ?_⟩
    · rw [Json.tokenize_quote, (h.text rest hrest).1]
      rfl
    · exact fun _ => startsWithBreak_cons (by decide) _

theorem not_startsWithBreak {c : Char} (h : c = '-' ∨ c.isAlphanum = true) (r : List Char) :
    ¬ StartsWithBreak (c :: r) := by
  intro hbreak
  have hc : isBreak c = true := hbreak c rfl
  rcases h with rfl | h
  · exact absurd hc (by decide)
  · exact Json.Lexer.not_isAlphanum_of_isBreak hc h

theorem consNumber {text : List Char} {n : Json.Number} (hn : Json.Number.ofText? text = some n)
    (hbreak : StartsWithBreak s) (h : Loosened s T U A) :
    ∃ B, Loosened (text ++ s) (.number n :: T) (.number n :: U) (B ++ A) := by
  obtain ⟨B, hatom⟩ := exists_atom_number hn
  refine ⟨B, ?_, ?_, ?_, ?_, ?_⟩
  · rw [lexemes?_append hatom.lexemes hbreak, h.lexemes]
    rfl
  · intro hall
    rw [List.all_append, hatom.blank] at hall
    cases hall
  · intro hnext
    rw [hatom.closesNext] at hnext
    cases hnext
  · intro hends
    rw [hatom.endsInComma] at hends
    rw [List.getLast?_cons, h.comma hends]
    rfl
  · intro t ht
    rw [hatom.text] at ht
    obtain ⟨rest, hrest, rfl⟩ := Option.map_eq_some_iff.1 ht
    obtain ⟨htokens, hstarts⟩ := h.text rest hrest
    refine ⟨?_, fun hstart => absurd hstart ?_⟩
    · rw [Json.Lexer.tokenize_append (Json.tokenize_number hn) (hstarts hbreak), htokens]
      rfl
    · obtain ⟨sign, whole, fraction, exponent, htext, hparts⟩ := Json.Number.parts_of_ofText? hn
      obtain ⟨c, r, hcons, hc⟩ := hparts.start
      rw [htext, hcons]
      refine not_startsWithBreak (hc.imp_right fun hdigit => ?_) (r ++ s)
      rw [Char.isAlphanum, hdigit, Bool.or_true]

/-- A word of JSON has no text of its own. -/
theorem consWord {text : List Char} {w : Token} (hw : Json.Lexer.wordToken? text = some w)
    (hbreak : StartsWithBreak s) (h : Loosened s T U A) :
    Loosened (text ++ s) (w :: T) (w :: U) (.word text :: A) := by
  obtain ⟨hword, htext⟩ := lexemes?_word hw
  constructor
  · rw [lexemes?_append hword hbreak, h.lexemes]
    rfl
  · intro hall
    cases hall
  · intro hnext
    cases hnext
  · intro hends
    rw [endsInComma, Bool.or_eq_true, Bool.and_eq_true, beq_iff_eq] at hends
    rcases hends with hends | ⟨hc, -⟩
    · rw [List.getLast?_cons, h.comma hends]
      rfl
    · cases hc
  · intro t ht
    rw [loosenLexemes?_cons (Or.inl fun h => by cases h), Lexeme.text?, htext,
      Option.bind_none] at ht
    cases ht

end Loosened

/-- **What becomes of a text of JSON that is loosened.** -/
theorem Pieces.loosened {s : List Char} {T U : List Token} (h : Pieces s T U)
    (hchain : T.IsChain Token.follows) : ∃ A, Loosened s T U A := by
  induction h with
  | nil => exact ⟨[], .nil⟩
  | blank hc _ ih =>
      obtain ⟨A, hA⟩ := ih hchain
      exact ⟨_, hA.consBlank hc⟩
  | mark hm _ ih =>
      obtain ⟨A, hA⟩ := ih hchain.tail
      exact ⟨_, hA.consMark hm hchain⟩
  | string hbody _ ih =>
      obtain ⟨A, hA⟩ := ih hchain.tail
      exact ⟨_, hA.consString hbody⟩
  | number hn hbreak _ ih =>
      obtain ⟨A, hA⟩ := ih hchain.tail
      obtain ⟨B, hB⟩ := hA.consNumber hn hbreak
      exact ⟨B ++ A, hB⟩
  | word hw hbreak _ ih =>
      obtain ⟨A, hA⟩ := ih hchain.tail
      exact ⟨_, hA.consWord hw hbreak⟩

/-! ## Values -/

/-- **A value's text** has its pieces, and is loosened piece by piece. -/
theorem loosened_of_parse? {s : List Char} {v : Json} (h : parse? s = some v) :
    ∃ T U A, tokenize s = some T ∧ ofTokens? T = some v ∧ Pieces s T U ∧ Loosened s T U A := by
  obtain ⟨T, hT, hv⟩ := Option.bind_eq_some_iff.1 h
  obtain ⟨stack, hrun⟩ := Json.ofTokens?_eq_some_iff.1 hv
  have hchain := Json.Reader.isChain_follows hrun
  obtain ⟨U, hpieces⟩ := exists_pieces hT hchain
  obtain ⟨A, hA⟩ := hpieces.loosened hchain
  exact ⟨T, U, A, hT, hv, hpieces, hA⟩

/-- A text of JSON has lexemes that may stand beside others. -/
theorem apart_of_json {s : List Char} {v : Json} (h : parse? s = some v) :
    ∃ A, lexemes? s = some A ∧ Apart A := by
  obtain ⟨T, U, A, -, hv, -, hA⟩ := loosened_of_parse? h
  refine ⟨A, hA.lexemes, ⟨?_, ?_, ?_⟩⟩
  · rw [← Bool.not_eq_true]
    intro hblank
    rw [hA.blank hblank] at hv
    cases hv
  · -- JSON neither begins with a closing bracket nor ends in a comma
    rw [← Bool.not_eq_true]
    intro hcloses
    obtain ⟨t, ht, hcloses⟩ := hA.closes hcloses
    obtain ⟨T, rfl⟩ := List.head?_eq_some_iff.1 ht
    rw [ofTokens?_of_closes hcloses] at hv
    cases hv
  · rw [← Bool.not_eq_true]
    intro hcomma
    rw [ofTokens?_of_comma (hA.comma hcomma)] at hv
    cases hv

/-- **A text whose tokens may come one after the other** keeps their kinds when it is loosened. -/
theorem kind_of_loosenAll? {s t : List Char} {T : List Token} (hT : tokenize s = some T)
    (hchain : T.IsChain Token.follows) (ht : loosenAll? s = some t) :
    ∃ U, tokenize t = some U ∧ T.map Token.kind = U.map Token.kind := by
  obtain ⟨U, hpieces⟩ := exists_pieces hT hchain
  obtain ⟨A, hA⟩ := hpieces.loosened hchain
  rw [loosenAll?, hA.lexemes, Option.bind_some] at ht
  exact ⟨U, (hA.text t ht).1, hpieces.kind_eq⟩

end Switchboard.Literal
