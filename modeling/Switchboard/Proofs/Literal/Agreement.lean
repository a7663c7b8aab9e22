import Mathlib.Algebra.BigOperators.Group.Multiset.Basic
import Switchboard.Proofs.Json.Strings
import Switchboard.Proofs.Literal.Pieces

/-!
# Texts that mean the same loosened

A text of JSON means the same after it was loosened when its escapes are those on which the two
readings agree: a backslash in front of a quote, a slash or another backslash. `Plain` asks this of
every backslash in the text, and `value_eq_of_plain` draws the conclusion.

Where an escape is not plain, the strict reading has one character for it, and that is a control
character unless the escape is a code; the loose reading has a letter, and all the digits of a code.
So the loose reading of a string has more characters to show from there on (`Ahead`), and what the
strings of a text have to show tells whether it is plain (`Pieces.plain_cases`).
-/

namespace Switchboard.Literal

open Json (Token tokenize ofTokens? parse? stringsOf)

/-- The characters that stand for themselves after a backslash, in either reading or in loose
literals only. -/
def isPlainEscape (c : Char) : Bool := c == '\\' || c == '"' || c == '/' || c == '\''

/-- Every backslash has a character after it that stands for itself. -/
def Plain : List Char → Bool
  | [] => true
  | c :: rest =>
    if c = '\\' then
      match rest with
      | [] => false
      | e :: rest => isPlainEscape e && Plain rest
    else Plain rest

theorem plain_cons {c : Char} (h : c ≠ '\\') (s : List Char) : Plain (c :: s) = Plain s := by
  rw [Plain.eq_def]
  exact if_neg h

theorem plain_escape (e : Char) (s : List Char) :
    Plain ('\\' :: e :: s) = (isPlainEscape e && Plain s) := by
  rw [Plain.eq_def]
  exact if_pos rfl

theorem plain_append_of_forall {s : List Char} (h : ∀ c ∈ s, c ≠ '\\') (t : List Char) :
    Plain (s ++ t) = Plain t := by
  induction s with
  | nil => rfl
  | cons c s ih =>
      rw [List.forall_mem_cons] at h
      rw [List.cons_append, plain_cons h.1, ih h.2]

/-- **Plain texts may be put together.** -/
theorem plain_append {s t : List Char} (hs : Plain s = true) (ht : Plain t = true) :
    Plain (s ++ t) = true := by
  induction hlength : s.length using Nat.strongRecOn generalizing s with
  | ind length ih =>
    cases s with
    | nil => exact ht
    | cons c s =>
        rw [List.length_cons] at hlength
        by_cases hc : c = '\\'
        · subst hc
          cases s with
          | nil => cases hs
          | cons e s =>
              rw [List.length_cons] at hlength
              rw [plain_escape, Bool.and_eq_true] at hs
              rw [List.cons_append, List.cons_append, plain_escape, hs.1,
                ih s.length (by omega) hs.2 rfl]
              rfl
        · rw [plain_cons hc] at hs
          rw [List.cons_append, plain_cons hc, ih s.length (by omega) hs rfl]

/-! ## Strings -/

theorem strict_cons {state last : Json.Lexer.State} {c : Char} {s : List Char}
    (h : Json.Lexer.advance state (c :: s) = some ([], last)) :
    ∃ next, Json.Lexer.step c state = some ([], next) ∧
      Json.Lexer.advance next s = some ([], last) := by
  rw [Json.Lexer.advance] at h
  obtain ⟨⟨out, next⟩, hstep, hrest⟩ := Option.bind_eq_some_iff.1 h
  obtain ⟨⟨more, last⟩, hadvance, heq⟩ := Option.map_eq_some_iff.1 hrest
  obtain ⟨hout, rfl⟩ := Prod.mk.inj heq
  obtain ⟨rfl, rfl⟩ := List.append_eq_nil_iff.1 hout
  exact ⟨next, hstep, hadvance⟩

theorem loose_cons {state last : State} {c : Char} {s : List Char}
    (h : advance state (c :: s) = ([], last)) :
    advance (step c state).2 s = ([], last) := by
  rw [advance] at h
  obtain ⟨hout, rfl⟩ := Prod.mk.inj h
  exact Prod.ext (List.append_eq_nil_iff.1 hout).2 rfl

/-- How many characters of a text are no control characters. -/
def visible (s : List Char) : Nat := s.countP fun c => 0x20 ≤ c.toNat

theorem visible_reverse (s : List Char) : visible s.reverse = visible s := List.countP_reverse

theorem visible_cons_le (c : Char) (s : List Char) : visible (c :: s) ≤ visible s + 1 := by
  rw [visible, List.countP_cons]
  exact Nat.add_le_add_left (by split <;> decide) _

theorem visible_cons_lt {x y : List Char} (c : Char) (h : visible x < visible y) :
    visible (c :: x) < visible (c :: y) := by
  rw [visible, visible, List.countP_cons, List.countP_cons]
  exact Nat.add_lt_add_right h _

theorem visible_cons_of_le {c : Char} (h : 0x20 ≤ c.toNat) (s : List Char) :
    visible (c :: s) = visible s + 1 :=
  List.countP_cons_of_pos (decide_eq_true h)

theorem visible_lt_cons {c : Char} (h : 0x20 ≤ c.toNat) (s : List Char) :
    visible s < visible (c :: s) := by
  rw [visible_cons_of_le h]
  exact Nat.lt_succ_self _

theorem visible_cons_of_lt {c : Char} (h : c.toNat < 0x20) (s : List Char) :
    visible (c :: s) = visible s :=
  List.countP_cons_of_neg (by rw [decide_eq_true_eq]; omega)

theorem le_toNat_of_digitIn? {c : Char} {base digit : Nat}
    (h : Decimal.digitIn? base c = some digit) : 0x20 ≤ c.toNat := by
  obtain ⟨hvalue, -⟩ := Option.filter_eq_some_iff.1 h
  split at hvalue
  · next hdigit =>
    have halnum : c.isAlphanum = true := by rw [Char.isAlphanum, hdigit, Bool.or_true]
    have hrange := Json.Lexer.isAlphanum_iff.1 halnum
    omega
  · split at hvalue
    · next hsmall => exact Nat.le_trans (by decide) (show 'a'.toNat ≤ c.toNat from hsmall.1)
    · split at hvalue
      · next hlarge => exact Nat.le_trans (by decide) (show 'A'.toNat ≤ c.toNat from hlarge.1)
      · cases hvalue

/-- What JSON knows after a backslash stands for itself, or is a letter that stands for a control
character. -/
theorem escaped?_cases {e c : Char} (h : Json.Lexer.escaped? e = some c) :
    (isPlainEscape e = true ∧ c = e) ∨
      (isPlainEscape e = false ∧ c.toNat < 0x20 ∧ 0x20 ≤ e.toNat) := by
  unfold Json.Lexer.escaped? at h
  by_cases hself : e = '"' ∨ e = '\\' ∨ e = '/'
  · rw [if_pos hself] at h
    refine Or.inl ⟨?_, (Option.some.inj h).symm⟩
    rcases hself with rfl | rfl | rfl <;> rfl
  · rw [if_neg hself] at h
    refine Or.inr ?_
    repeat' split at h
    all_goals cases h
    all_goals subst_vars; decide

/-- Inside of a string the loose reading has more characters to show than the strict one. -/
inductive Ahead : Json.Lexer.State → State → Prop where
  | string {x y : List Char} : visible x < visible y → Ahead (.string x) (.string '"' y)
  | escape {x y : List Char} : visible x < visible y → Ahead (.escape x) (.escape '"' y)
  | code {x y : List Char} {high : Option Nat} {value owed : Nat} : visible x < visible y →
      Ahead (.code x high value owed) (.string '"' y)
  | surrogate {x y : List Char} {high : Nat} : visible x < visible y →
      Ahead (.surrogate x high) (.string '"' y)
  | surrogateEscape {x y : List Char} {high : Nat} : visible x < visible y →
      Ahead (.surrogateEscape x high) (.escape '"' y)

/-- **It stays ahead.** A code adds at most one character to the strict reading, and all of its
digits to the loose one. -/
theorem Ahead.step {c : Char} {state next : Json.Lexer.State} {other : State}
    (h : Ahead state other) (hstep : Json.Lexer.step c state = some ([], next)) :
    Ahead next (Literal.step c other).2 := by
  cases h with
  | @string x y hlt =>
      rw [Json.Lexer.step] at hstep
      rw [Literal.step]
      by_cases hquote : c = '"'
      · rw [if_pos hquote] at hstep
        cases hstep
      · rw [if_neg hquote] at hstep ⊢
        by_cases hbackslash : c = '\\'
        · rw [if_pos hbackslash] at hstep ⊢
          cases hstep
          exact .escape hlt
        · rw [if_neg hbackslash] at hstep ⊢
          split at hstep
          · cases hstep
          · cases hstep
            exact .string (visible_cons_lt c hlt)
  | @escape x y hlt =>
      rw [Json.Lexer.step] at hstep
      rw [Literal.step]
      split at hstep
      · next hu =>
        cases hstep
        rw [hu]
        exact .code (hlt.trans (visible_lt_cons (by decide) y))
      · obtain ⟨e, he, heq⟩ := Option.map_eq_some_iff.1 hstep
        cases heq
        rcases escaped?_cases he with ⟨-, rfl⟩ | ⟨-, hcontrol, hletter⟩
        · exact .string (visible_cons_lt e hlt)
        · refine .string ?_
          rw [visible_cons_of_lt hcontrol]
          exact hlt.trans (visible_lt_cons hletter y)
  | @code x y high value owed hlt =>
      rw [Json.Lexer.step] at hstep
      obtain ⟨digit, hdigit, hstep⟩ := Option.bind_eq_some_iff.1 hstep
      have hc := ne_of_digitIn? hdigit
      have hy := visible_cons_of_le (le_toNat_of_digitIn? hdigit) y
      rw [Literal.step, if_neg hc.1, if_neg hc.2]
      dsimp only at hstep
      split at hstep
      · obtain ⟨last, hcode, heq⟩ := Option.map_eq_some_iff.1 hstep
        cases heq
        rcases code?_cases hcode with ⟨e, rfl⟩ | rfl
        · have hx := visible_cons_le e x
          exact .string (by omega)
        · exact .surrogate (by omega)
      · cases hstep
        exact .code (by omega)
  | @surrogate x y high hlt =>
      rw [Json.Lexer.step] at hstep
      split at hstep
      · next hbackslash =>
        cases hstep
        rw [Literal.step, if_pos hbackslash]
        exact .surrogateEscape hlt
      · cases hstep
  | @surrogateEscape x y high hlt =>
      rw [Json.Lexer.step] at hstep
      split at hstep
      · next hu =>
        cases hstep
        rw [Literal.step, hu]
        exact .code (hlt.trans (visible_lt_cons (by decide) y))
      · cases hstep

theorem Ahead.advance {body : List Char} {state : Json.Lexer.State} {other : State}
    {x y : List Char} (h : Ahead state other)
    (hstrict : Json.Lexer.advance state body = some ([], .string x))
    (hloose : Literal.advance other body = ([], .string '"' y)) : visible x < visible y := by
  induction body generalizing state other with
  | nil =>
      cases hstrict
      cases hloose
      cases h with
      | string hlt => exact hlt
  | cons c body ih =>
      obtain ⟨next, hstep, hnext⟩ := strict_cons hstrict
      exact ih (h.step hstep) hnext (loose_cons hloose)

/-- An escape adds the same character to either reading if it is plain, and else puts the loose one
ahead. -/
theorem escape_cases {text : List Char} {e : Char} {next : Json.Lexer.State}
    (h : Json.Lexer.step e (.escape text) = some ([], next)) :
    (isPlainEscape e = true ∧ next = .string (e :: text)) ∨
      (isPlainEscape e = false ∧ Ahead next (.string '"' (e :: text))) := by
  rw [Json.Lexer.step] at h
  split at h
  · next hu =>
    -- the loose reading has the letter of the code, the strict one nothing yet
    cases h
    subst hu
    exact Or.inr ⟨rfl, .code (visible_lt_cons (by decide) text)⟩
  · obtain ⟨c, hc, heq⟩ := Option.map_eq_some_iff.1 h
    cases heq
    rcases escaped?_cases hc with ⟨hplain, rfl⟩ | ⟨hplain, hcontrol, hletter⟩
    · exact Or.inl ⟨hplain, rfl⟩
    · -- a control character on the one side, a letter on the other
      refine Or.inr ⟨hplain, .string ?_⟩
      rw [visible_cons_of_lt hcontrol]
      exact visible_lt_cons hletter text

/-- **What a string says in the two readings**: the same, or from the first escape on that is not
plain the loose one has more to show. -/
theorem content_cases {text body x y : List Char}
    (hstrict : Json.Lexer.advance (.string text) body = some ([], .string x))
    (hloose : advance (.string '"' text) body = ([], .string '"' y)) (rest : List Char) :
    (x = y ∧ Plain (body ++ '"' :: rest) = Plain rest) ∨
      (visible x < visible y ∧ Plain (body ++ '"' :: rest) = false) := by
  induction hlength : body.length using Nat.strongRecOn generalizing body text with
  | ind length ih =>
    cases body with
    | nil =>
        cases hstrict
        cases hloose
        exact Or.inl ⟨rfl, plain_cons (by decide) rest⟩
    | cons c body =>
        rw [List.length_cons] at hlength
        obtain ⟨next, hstep, hnext⟩ := strict_cons hstrict
        have hrest := loose_cons hloose
        rw [Json.Lexer.step] at hstep
        rw [step] at hrest
        by_cases hquote : c = '"'
        · rw [if_pos hquote] at hstep
          cases hstep
        · rw [if_neg hquote] at hstep hrest
          by_cases hbackslash : c = '\\'
          · rw [if_pos hbackslash] at hstep hrest
            cases hstep
            subst hbackslash
            cases body with
            | nil => cases hnext
            | cons e body =>
                -- two characters are read at once, the backslash and the one that it is before
                rw [List.length_cons] at hlength
                rw [List.cons_append, List.cons_append, plain_escape]
                obtain ⟨after, hescape, hafter⟩ := strict_cons hnext
                have hloose' := loose_cons hrest
                rcases escape_cases hescape with ⟨hplain, rfl⟩ | ⟨hplain, hahead⟩
                · rw [hplain, Bool.true_and]
                  exact ih body.length (by omega) hafter hloose' rfl
                · rw [hplain, Bool.false_and]
                  exact Or.inr ⟨hahead.advance hafter hloose', rfl⟩
          · rw [if_neg hbackslash] at hstep hrest
            rw [List.cons_append, plain_cons hbackslash]
            split at hstep
            · cases hstep
            · cases hstep
              exact ih body.length (by omega) hnext hrest rfl

/-! ## Texts -/

theorem ne_backslash_of_isNumberChar {c : Char} (h : Json.Lexer.isNumberChar c = true) :
    c ≠ '\\' := by
  rintro rfl
  exact absurd h (by decide)

theorem ne_backslash_of_number {text : List Char} {n : Json.Number}
    (h : Json.Number.ofText? text = some n) : ∀ c ∈ text, c ≠ '\\' := by
  obtain ⟨sign, whole, fraction, exponent, rfl, hparts⟩ := Json.Number.parts_of_ofText? h
  exact fun c hc => ne_backslash_of_isNumberChar (List.all_eq_true.1 hparts.all_isNumberChar c hc)

theorem ne_backslash_of_word {text : List Char} {w : Token}
    (h : Json.Lexer.wordToken? text = some w) : ∀ c ∈ text, c ≠ '\\' := by
  have hall : text.all (· != '\\') = true := by
    rcases Json.Lexer.wordToken?_cases h with ⟨rfl, -⟩ | ⟨rfl, -⟩ | ⟨rfl, -⟩ <;> rfl
  exact fun c hc => bne_iff_ne.1 (List.all_eq_true.1 hall c hc)

/-- How much there is to show in the strings among tokens. -/
def shown (T : List Token) : Nat := ((stringsOf T).map fun s => visible s.toList).sum

theorem shown_cons (t : Token) (T : List Token) :
    shown (t :: T) = (t.strings.map fun s => visible s.toList).sum + shown T := by
  rw [shown, Json.stringsOf_cons, Multiset.map_add, Multiset.sum_add, shown]

theorem shown_string (s : List Char) (T : List Token) :
    shown (.string (String.ofList s) :: T) = visible s + shown T := by
  rw [shown_cons, Token.strings, Multiset.map_singleton, Multiset.sum_singleton,
    String.toList_ofList]

/-- **What loosening changes** in a text of JSON: nothing if the text is plain, and else some of its
strings, which come to show more. -/
theorem Pieces.plain_cases {s : List Char} {T U : List Token} (h : Pieces s T U) :
    (Plain s = true ∧ T = U) ∨ (Plain s = false ∧ shown T < shown U) := by
  -- a token that both readings share changes nothing on either side
  have hcons {T U : List Token} {p : Bool} (t : Token)
      (ih : (p = true ∧ T = U) ∨ (p = false ∧ shown T < shown U)) :
      (p = true ∧ t :: T = t :: U) ∨ (p = false ∧ shown (t :: T) < shown (t :: U)) := by
    refine ih.imp (And.imp_right fun heq => by rw [heq]) (And.imp_right fun hlt => ?_)
    rw [shown_cons, shown_cons]
    exact Nat.add_lt_add_left hlt _
  induction h with
  | nil => exact Or.inl ⟨rfl, rfl⟩
  | @blank c s T U hc _ ih =>
      have hne : c ≠ '\\' := by
        rintro rfl
        exact absurd hc (by decide)
      rwa [plain_cons hne]
  | @mark c m s T U hm _ ih =>
      have hne : c ≠ '\\' := by
        rintro rfl
        cases hm
      rw [plain_cons hne]
      exact hcons m ih
  | @string body x y s T U hbody _ ih =>
      rw [plain_cons (by decide), shown_string, shown_string]
      rcases content_cases hbody.strict hbody.loose s with
        ⟨hcontent, hplain⟩ | ⟨hlt, hfalse⟩
      · rw [hplain, List.reverse_injective hcontent, ← shown_string, ← shown_string]
        exact hcons _ ih
      · have hle : shown T ≤ shown U := by
          rcases ih with ⟨-, rfl⟩ | ⟨-, hlt⟩
          · exact Nat.le_refl _
          · exact Nat.le_of_lt hlt
        rw [visible_reverse, visible_reverse] at hlt
        exact Or.inr ⟨hfalse, Nat.add_lt_add_of_lt_of_le hlt hle⟩
  | @number text n s T U hn _ _ ih =>
      rw [plain_append_of_forall (ne_backslash_of_number hn)]
      exact hcons _ ih
  | @word text w s T U hw _ _ ih =>
      rw [plain_append_of_forall (ne_backslash_of_word hw)]
      exact hcons w ih

theorem Pieces.eq_of_plain {s : List Char} {T U : List Token} (h : Pieces s T U)
    (hplain : Plain s = true) : T = U := by
  rcases h.plain_cases with ⟨-, hsame⟩ | ⟨hfalse, -⟩
  · exact hsame
  · exact absurd (hplain.symm.trans hfalse) (by decide)

theorem Pieces.plain_of_shown_eq {s : List Char} {T U : List Token} (h : Pieces s T U)
    (hshown : shown T = shown U) : Plain s = true := by
  rcases h.plain_cases with ⟨hplain, -⟩ | ⟨-, hlt⟩
  · exact hplain
  · exact absurd hshown (Nat.ne_of_lt hlt)

/-- **A plain text of JSON** means what it means after it was loosened. -/
theorem value_eq_of_plain {s t : List Char} {v w : Json} (hplain : Plain s = true)
    (hv : parse? s = some v) (ht : loosenAll? s = some t) (hw : parse? t = some w) : v = w := by
  obtain ⟨T, U, A, -, hvalue, hpieces, hA⟩ := loosened_of_parse? hv
  obtain rfl := hpieces.eq_of_plain hplain
  rw [loosenAll?, hA.lexemes, Option.bind_some] at ht
  rw [parse?, (hA.text t ht).1, Option.bind_some, hvalue] at hw
  exact Option.some.inj hw

end Switchboard.Literal
