import Switchboard.Json.Lexer
import Switchboard.Json.Printer
import Switchboard.Text.Blank

/-!
# Texts of JSON, piece by piece

The machine over characters reads a text in one go. Here a text is put together from parts and read
part by part. Where a part ends inside a string nothing can be said, and where it ends inside a
number or a word it matters what comes next: `isBreak` holds of the characters that no number and no
word goes on with, in JSON or in a loose literal.
-/

namespace Switchboard.Json.Lexer

open Decimal

/-- Whether a character ends every number and every word before it. -/
def isBreak (c : Char) : Bool :=
  !(c.isAlphanum || c == '_' || c == '.' || c == '+' || c == '-')

/-- Nothing, or a character that ends what came before it. -/
def StartsWithBreak (s : List Char) : Prop := ∀ c ∈ s.head?, isBreak c = true

theorem startsWithBreak_cons {c : Char} (h : isBreak c = true) (s : List Char) :
    StartsWithBreak (c :: s) := by
  intro d hd
  rwa [← Option.some.inj hd]

theorem isAlphanum_iff {c : Char} :
    c.isAlphanum = true ↔ (65 ≤ c.toNat ∧ c.toNat ≤ 90) ∨ (97 ≤ c.toNat ∧ c.toNat ≤ 122) ∨
      (48 ≤ c.toNat ∧ c.toNat ≤ 57) := by
  show (decide (65 ≤ c.val ∧ c.val ≤ 90) || (decide (97 ≤ c.val) && decide (c.val ≤ 122))
    || (decide (48 ≤ c.val) && decide (c.val ≤ 57))) = true ↔ _
  simp only [Bool.or_eq_true, Bool.and_eq_true, decide_eq_true_eq, UInt32.le_iff_toNat_le, or_assoc]
  exact Iff.rfl

theorem not_isAlphanum_of_isBreak {c : Char} (h : isBreak c = true) : ¬ c.isAlphanum = true := by
  simp only [isBreak, Bool.not_eq_true', Bool.or_eq_false_iff] at h
  simp only [h.1.1.1.1, Bool.false_eq_true, not_false_iff]

theorem isNumberChar_of_isBreak {c : Char} (h : isBreak c = true) : isNumberChar c = false := by
  simp only [isBreak, Bool.not_eq_true', Bool.or_eq_false_iff, beq_eq_false_iff_ne, ne_eq,
    Char.isAlphanum] at h
  obtain ⟨⟨⟨⟨⟨halpha, hdigit⟩, -⟩, hpoint⟩, hplus⟩, hminus⟩ := h
  have he : c ≠ 'e' := by
    rintro rfl
    exact absurd halpha (by decide)
  have hE : c ≠ 'E' := by
    rintro rfl
    exact absurd halpha (by decide)
  simp [isNumberChar, hdigit, hpoint, hplus, hminus, he, hE]

theorem isWordChar_of_isBreak {c : Char} (h : isBreak c = true) : isWordChar c = false := by
  rw [← Bool.not_eq_true]
  intro hword
  simp only [isWordChar, Bool.and_eq_true, decide_eq_true_eq, Char.le_def,
    UInt32.le_iff_toNat_le] at hword
  exact not_isAlphanum_of_isBreak h (isAlphanum_iff.2 (Or.inr (Or.inl hword)))

theorem isBreak_of_isBlank {c : Char} (h : isBlank c = true) : isBreak c = true := by
  simp only [isBlank, Bool.or_eq_true, beq_iff_eq] at h
  rcases h with ((rfl | rfl) | rfl) | rfl <;> decide

/-! ## Marks and blanks -/

/-- The token of a character that is one by itself. -/
def mark? (c : Char) : Option Token :=
  if c = '[' then some .openArray
  else if c = ']' then some .closeArray
  else if c = '{' then some .openObject
  else if c = '}' then some .closeObject
  else if c = ',' then some .comma
  else if c = ':' then some .colon
  else none

theorem mark?_cases {c : Char} {m : Token} (h : mark? c = some m) :
    c = '[' ∨ c = ']' ∨ c = '{' ∨ c = '}' ∨ c = ',' ∨ c = ':' := by
  grind [mark?]

theorem isBreak_of_mark {c : Char} {m : Token} (h : mark? c = some m) : isBreak c = true := by
  rcases mark?_cases h with rfl | rfl | rfl | rfl | rfl | rfl <;> decide

theorem start_of_isBlank {c : Char} (h : isBlank c = true) : start c = some ([], .between) :=
  if_pos h

theorem start_of_mark {c : Char} {m : Token} (h : mark? c = some m) :
    start c = some ([m], .between) := by
  rcases mark?_cases h with rfl | rfl | rfl | rfl | rfl | rfl <;> cases h <;> rfl

theorem start_of_isDigit {c : Char} (h : c = '-' ∨ c.isDigit = true) :
    start c = some ([], .number [c]) := by
  have hne : ∀ d : Char, d ≠ '-' → d.isDigit = false → c ≠ d := by
    rintro d hd hdigit rfl
    rcases h with h | h
    · exact hd h
    · exact absurd h (by simp [hdigit])
  have hblank : isBlank c = false := by
    simp only [isBlank, Bool.or_eq_false_iff, beq_eq_false_iff_ne]
    exact ⟨⟨⟨hne _ (by decide) (by decide), hne _ (by decide) (by decide)⟩,
      hne _ (by decide) (by decide)⟩, hne _ (by decide) (by decide)⟩
  unfold start
  rw [hblank, if_neg Bool.false_ne_true, if_neg (hne _ (by decide) (by decide)),
    if_neg (hne _ (by decide) (by decide)), if_neg (hne _ (by decide) (by decide)),
    if_neg (hne _ (by decide) (by decide)), if_neg (hne _ (by decide) (by decide)),
    if_neg (hne _ (by decide) (by decide)), if_neg (hne _ (by decide) (by decide)), if_pos h]

theorem wordToken?_cases {text : List Char} {w : Token} (h : wordToken? text = some w) :
    (text = "null".toList ∧ w = .null) ∨ (text = "true".toList ∧ w = .bool true) ∨
      (text = "false".toList ∧ w = .bool false) := by
  unfold wordToken? at h
  split at h
  · next hnull => exact Or.inl ⟨hnull, (Option.some.inj h).symm⟩
  · split at h
    · next htrue => exact Or.inr (Or.inl ⟨htrue, (Option.some.inj h).symm⟩)
    · split at h
      · next hfalse => exact Or.inr (Or.inr ⟨hfalse, (Option.some.inj h).symm⟩)
      · cases h

/-- What a character between tokens can be. -/
inductive Began (c : Char) : List Token → State → Prop where
  | blank : isBlank c = true → Began c [] .between
  | mark {m : Token} : mark? c = some m → Began c [m] .between
  | string : c = '"' → Began c [] (.string [])
  | number : c = '-' ∨ c.isDigit = true → Began c [] (.number [c])
  | word : isWordChar c = true → Began c [] (.word [c])

theorem began_of_start {c : Char} {out : List Token} {next : State}
    (h : start c = some (out, next)) : Began c out next := by
  cases hmark : mark? c with
  | some m =>
      cases Option.some.inj ((start_of_mark hmark).symm.trans h)
      exact .mark hmark
  | none =>
      have hne : ∀ d : Char, mark? d ≠ none → c ≠ d := by
        rintro d hd rfl
        exact hd hmark
      unfold start at h
      rw [if_neg (hne '[' (by decide)), if_neg (hne ']' (by decide)), if_neg (hne '{' (by decide)),
        if_neg (hne '}' (by decide)), if_neg (hne ',' (by decide)), if_neg (hne ':' (by decide))]
        at h
      split at h
      · next hblank =>
        cases h
        exact .blank hblank
      · split at h
        · next hquote =>
          cases h
          exact .string hquote
        · split at h
          · next hdigit =>
            cases h
            exact .number hdigit
          · split at h
            · next hword =>
              cases h
              exact .word hword
            · cases h

/-! ## Reading a part -/

/-- A character that ends no token only changes the state. -/
theorem runFrom_of_step {c : Char} {state next : State} (h : step c state = some ([], next))
    (t : List Char) : runFrom state (c :: t) = runFrom next t := by
  rw [runFrom, h, Option.bind_some]
  exact Option.map_id' (x := runFrom next t)

/-- Reads a part of a text: the tokens that end in it and the state after it. -/
def advance : State → List Char → Option (List Token × State)
  | state, [] => some ([], state)
  | state, c :: rest =>
    (step c state).bind fun (out, state) =>
      (advance state rest).map fun (more, state) => (out ++ more, state)

theorem runFrom_append (state : State) (s t : List Char) :
    runFrom state (s ++ t)
      = (advance state s).bind fun (out, state) => (runFrom state t).map (out ++ ·) := by
  induction s generalizing state with
  | nil =>
      simp only [List.nil_append, advance, Option.bind_some, Option.map_id']
  | cons c s ih =>
      rw [List.cons_append, runFrom, advance]
      cases step c state with
      | none => rfl
      | some next =>
          obtain ⟨out, state'⟩ := next
          simp only [Option.bind_some, ih]
          cases advance state' s with
          | none => rfl
          | some reached =>
              simp only [Option.bind_some, Option.map_some, Option.map_map]
              exact congrArg (Option.map · _) (funext fun _ => (List.append_assoc _ _ _).symm)

/-- A character read between tokens, with a token put in front of what it is. -/
theorem runFrom_start_cons (c : Char) (t : List Char) (token : Token) :
    (((start c).map fun (out, state) => (token :: out, state)).bind fun (out, state) =>
        (runFrom state t).map (out ++ ·))
      = (tokenize (c :: t)).map ([token] ++ ·) := by
  rw [tokenize, runFrom, step]
  cases start c with
  | none => rfl
  | some next =>
      simp only [Option.map_some, Option.bind_some, Option.map_map]
      rfl

/-- What comes after a number or a word is read as if it began there. -/
theorem runFrom_of_finish {state : State} {out : List Token} {t : List Char}
    (h : finish state = some out) (ht : StartsWithBreak t) :
    runFrom state t = (tokenize t).map (out ++ ·) := by
  cases t with
  | nil =>
      rw [runFrom, h, tokenize, runFrom, finish, Option.map_some, List.append_nil]
  | cons c t =>
      have hc : isBreak c = true := ht c rfl
      cases state with
      | between =>
          cases h
          simp only [List.nil_append, Option.map_id']
          rfl
      | number text =>
          obtain ⟨n, hn, rfl⟩ := Option.map_eq_some_iff.1 h
          have hstep : step c (.number text)
              = (start c).map fun (out, state) => (.number n :: out, state) := by
            rw [step, isNumberChar_of_isBreak hc, if_neg Bool.false_ne_true, hn]
            rfl
          rw [runFrom, hstep]
          exact runFrom_start_cons c t (.number n)
      | word text =>
          obtain ⟨token, htoken, rfl⟩ := Option.map_eq_some_iff.1 h
          have hstep : step c (.word text)
              = (start c).map fun (out, state) => (token :: out, state) := by
            rw [step, isWordChar_of_isBreak hc, if_neg Bool.false_ne_true, htoken]
            rfl
          rw [runFrom, hstep]
          exact runFrom_start_cons c t token
      | string _ | escape _ | code _ _ _ _ | surrogate _ _ | surrogateEscape _ _ => cases h

/-- The state after a text that is one in itself. -/
theorem advance_of_runFrom {state : State} {s : List Char} {out : List Token}
    (h : runFrom state s = some out) :
    ∃ before after state', advance state s = some (before, state') ∧ finish state' = some after ∧
      out = before ++ after := by
  have happend := runFrom_append state s []
  rw [List.append_nil, h] at happend
  obtain ⟨⟨before, state'⟩, hadvance, hrest⟩ := Option.bind_eq_some_iff.1 happend.symm
  obtain ⟨after, hafter, rfl⟩ := Option.map_eq_some_iff.1 hrest
  exact ⟨before, after, state', hadvance, hafter, rfl⟩

/-- **Texts with a break between them are read one after the other.** -/
theorem tokenize_append {s t : List Char} {out : List Token} (h : tokenize s = some out)
    (ht : StartsWithBreak t) : tokenize (s ++ t) = (tokenize t).map (out ++ ·) := by
  obtain ⟨before, after, state, hadvance, hfinish, rfl⟩ := advance_of_runFrom h
  rw [tokenize, runFrom_append, hadvance, Option.bind_some]
  dsimp only
  rw [runFrom_of_finish hfinish ht, Option.map_map]
  exact congrArg (Option.map · _) (funext fun _ => (List.append_assoc _ _ _).symm)

theorem tokenize_mark {c : Char} {m : Token} (h : mark? c = some m) (t : List Char) :
    tokenize (c :: t) = (tokenize t).map (m :: ·) := by
  rw [tokenize, runFrom, step, start_of_mark h]
  rfl

theorem tokenize_blank {c : Char} (h : isBlank c = true) (t : List Char) :
    tokenize (c :: t) = tokenize t := by
  have hstep : step c .between = some ([], .between) := start_of_isBlank h
  exact runFrom_of_step hstep t

/-- Blanks in front of a text change nothing. -/
theorem tokenize_blanks {a : List Char} (ha : a.all isBlank = true) (t : List Char) :
    tokenize (a ++ t) = tokenize t := by
  induction a with
  | nil => rfl
  | cons c a ih =>
      rw [List.all_cons, Bool.and_eq_true] at ha
      rw [List.cons_append, tokenize_blank ha.1, ih ha.2]

/-! ## Splitting off a number or a word -/

theorem number_split {text s : List Char} {out : List Token}
    (h : runFrom (.number text) s = some out) :
    ∃ digits rest n more, s = digits ++ rest ∧
      Number.ofText? (text.reverse ++ digits) = some n ∧ tokenize rest = some more ∧
      out = .number n :: more := by
  induction s generalizing text with
  | nil =>
      rw [runFrom] at h
      obtain ⟨n, hn, rfl⟩ := Option.map_eq_some_iff.1 h
      exact ⟨[], [], n, [], rfl, by rwa [List.append_nil], rfl, rfl⟩
  | cons c s ih =>
      by_cases hc : isNumberChar c = true
      · have hstep : step c (.number text) = some ([], .number (c :: text)) := if_pos hc
        rw [runFrom_of_step hstep] at h
        obtain ⟨digits, rest, n, more, rfl, hn, hmore, rfl⟩ := ih h
        refine ⟨c :: digits, rest, n, more, rfl, ?_, hmore, rfl⟩
        rwa [List.reverse_cons, List.append_assoc] at hn
      · rw [runFrom, step, if_neg hc] at h
        obtain ⟨⟨before, next⟩, hstep, -⟩ := Option.bind_eq_some_iff.1 h
        obtain ⟨n, hn, -⟩ := Option.bind_eq_some_iff.1 hstep
        -- the number ends in front of this character, which is read again between tokens
        rw [hn, Option.bind_some, runFrom_start_cons] at h
        obtain ⟨more, hmore, rfl⟩ := Option.map_eq_some_iff.1 h
        exact ⟨[], c :: s, n, more, rfl, by rwa [List.append_nil], hmore, rfl⟩

theorem word_split {text s : List Char} {out : List Token}
    (h : runFrom (.word text) s = some out) :
    ∃ letters rest w more, s = letters ++ rest ∧
      wordToken? (text.reverse ++ letters) = some w ∧ tokenize rest = some more ∧
      out = w :: more := by
  induction s generalizing text with
  | nil =>
      rw [runFrom] at h
      obtain ⟨w, hw, rfl⟩ := Option.map_eq_some_iff.1 h
      exact ⟨[], [], w, [], rfl, by rwa [List.append_nil], rfl, rfl⟩
  | cons c s ih =>
      by_cases hc : isWordChar c = true
      · have hstep : step c (.word text) = some ([], .word (c :: text)) := if_pos hc
        rw [runFrom_of_step hstep] at h
        obtain ⟨letters, rest, w, more, rfl, hw, hmore, rfl⟩ := ih h
        refine ⟨c :: letters, rest, w, more, rfl, ?_, hmore, rfl⟩
        rwa [List.reverse_cons, List.append_assoc] at hw
      · rw [runFrom, step, if_neg hc] at h
        obtain ⟨⟨before, next⟩, hstep, -⟩ := Option.bind_eq_some_iff.1 h
        obtain ⟨w, hw, -⟩ := Option.bind_eq_some_iff.1 hstep
        -- so does a word
        rw [hw, Option.bind_some, runFrom_start_cons] at h
        obtain ⟨more, hmore, rfl⟩ := Option.map_eq_some_iff.1 h
        exact ⟨[], c :: s, w, more, rfl, by rwa [List.append_nil], hmore, rfl⟩

/-! ## Blanks at the end

A text that stops inside a string, or inside a number or word that is none, is not mended by what
comes after it unless that is a character of one of these.
-/

/-- Whether a character belongs to no number and no word, and neither ends a string nor stands for
anything after a backslash. -/
def isQuiet (c : Char) : Bool := isBreak c && c != '"' && c != '\\' && c != '/'

theorem isBreak_of_isQuiet {c : Char} (h : isQuiet c = true) : isBreak c = true := by
  simp only [isQuiet, Bool.and_eq_true] at h
  exact h.1.1.1

theorem ne_of_textIsBlank {c d : Char} (hc : Text.isBlank c = true)
    (hd : Text.isBlank d = false) : c ≠ d := by
  rintro rfl
  exact Bool.false_ne_true (hd.symm.trans hc)

theorem isQuiet_of_textIsBlank {c : Char} (h : Text.isBlank c = true) : isQuiet c = true := by
  have hne : ∀ d : Char, Text.isBlank d = false → (c == d) = false := fun d hd =>
    beq_eq_false_iff_ne.2 (ne_of_textIsBlank h hd)
  have halnum : c.isAlphanum = false := by
    rw [← Bool.not_eq_true, isAlphanum_iff]
    simp only [Text.isBlank, Bool.or_eq_true, Bool.and_eq_true, decide_eq_true_eq, beq_iff_eq] at h
    omega
  unfold isQuiet isBreak
  simp only [bne, halnum, hne '_' (by decide), hne '.' (by decide), hne '+' (by decide),
    hne '-' (by decide), hne '"' (by decide), hne '\\' (by decide), hne '/' (by decide),
    Bool.or_false, Bool.not_false, Bool.and_true]

theorem textIsBlank_of_isBlank {c : Char} (h : isBlank c = true) : Text.isBlank c = true := by
  simp only [isBlank, Bool.or_eq_true, beq_iff_eq] at h
  rcases h with ((rfl | rfl) | rfl) | rfl <;> decide

theorem digitIn?_of_isBreak {c : Char} (h : isBreak c = true) (base : Nat) :
    digitIn? base c = none := by
  have halnum := not_isAlphanum_of_isBreak h
  have hsmall : ¬ ('a' ≤ c ∧ c ≤ 'f') := by
    rw [isAlphanum_iff] at halnum
    simp only [Char.le_def, UInt32.le_iff_toNat_le]
    change ¬ (97 ≤ c.toNat ∧ c.toNat ≤ 102)
    omega
  have hlarge : ¬ ('A' ≤ c ∧ c ≤ 'F') := by
    rw [isAlphanum_iff] at halnum
    simp only [Char.le_def, UInt32.le_iff_toNat_le]
    change ¬ (65 ≤ c.toNat ∧ c.toNat ≤ 70)
    omega
  have hdigit : ¬ c.isDigit = true := fun hdigit => halnum (by simp [Char.isAlphanum, hdigit])
  unfold digitIn?
  rw [if_neg hdigit, if_neg hsmall, if_neg hlarge]
  rfl

/-- A quiet character ends nothing and mends nothing. -/
theorem step_of_isQuiet {c : Char} {state : State} (hc : isQuiet c = true)
    (h : finish state = none) :
    step c state = none ∨ ∃ next, step c state = some ([], next) ∧ finish next = none := by
  simp only [isQuiet, Bool.and_eq_true, bne_iff_ne] at hc
  obtain ⟨⟨⟨hbreak, hquote⟩, hbackslash⟩, hslash⟩ := hc
  have hletter : ∀ d : Char, d.isAlpha = true → c ≠ d := by
    rintro d hd rfl
    simp [isBreak, Char.isAlphanum, hd] at hbreak
  cases state with
  | between => cases h
  | string text =>
      rw [step, if_neg hquote, if_neg hbackslash]
      split
      · exact Or.inl rfl
      · exact Or.inr ⟨_, rfl, rfl⟩
  | escape text =>
      have hescaped : escaped? c = none := by
        unfold escaped?
        rw [if_neg (not_or.2 ⟨hquote, not_or.2 ⟨hbackslash, hslash⟩⟩),
          if_neg (hletter _ (by decide)), if_neg (hletter _ (by decide)),
          if_neg (hletter _ (by decide)), if_neg (hletter _ (by decide)),
          if_neg (hletter _ (by decide))]
      rw [step, if_neg (hletter _ (by decide)), hescaped]
      exact Or.inl rfl
  | code text high value owed =>
      rw [step, digitIn?_of_isBreak hbreak 16]
      exact Or.inl rfl
  | surrogate text high =>
      rw [step, if_neg hbackslash]
      exact Or.inl rfl
  | surrogateEscape text high =>
      rw [step, if_neg (hletter _ (by decide))]
      exact Or.inl rfl
  | number text =>
      -- the number would end here, but it is none
      rw [finish, Option.map_eq_none_iff] at h
      rw [step, isNumberChar_of_isBreak hbreak, if_neg Bool.false_ne_true, h]
      exact Or.inl rfl
  | word text =>
      rw [finish, Option.map_eq_none_iff] at h
      rw [step, isWordChar_of_isBreak hbreak, if_neg Bool.false_ne_true, h]
      exact Or.inl rfl

/-- What cannot end where it is does not end over quiet characters either. -/
theorem runFrom_of_isQuiet {state : State} {b : List Char} (hb : b.all isQuiet = true)
    (h : finish state = none) : runFrom state b = none := by
  induction b generalizing state with
  | nil => exact h
  | cons c b ih =>
      rw [List.all_cons, Bool.and_eq_true] at hb
      rcases step_of_isQuiet hb.1 h with hstep | ⟨next, hstep, hnext⟩
      · rw [runFrom, hstep, Option.bind_none]
      · rw [runFrom_of_step hstep, ih hb.2 hnext]

theorem tokenize_of_blanks {b : List Char} (hb : b.all isBlank = true) : tokenize b = some [] := by
  have h := tokenize_blanks hb []
  rwa [List.append_nil] at h

theorem startsWithBreak_of_blanks {b : List Char} (hb : b.all isBlank = true) :
    StartsWithBreak b :=
  fun c hc => isBreak_of_isBlank (List.all_eq_true.1 hb c (List.mem_of_mem_head? hc))

/-- Blanks after a text change nothing, whether it can be read or not. -/
theorem tokenize_append_blanks (s : List Char) {b : List Char} (hb : b.all isBlank = true) :
    tokenize (s ++ b) = tokenize s := by
  have hrun : ∀ state, runFrom state b = finish state := by
    intro state
    cases h : finish state with
    | none =>
        have hquiet : b.all isQuiet = true :=
          List.all_eq_true.2 fun c hc =>
            isQuiet_of_textIsBlank (textIsBlank_of_isBlank (List.all_eq_true.1 hb c hc))
        exact runFrom_of_isQuiet hquiet h
    | some out =>
        rw [runFrom_of_finish h (startsWithBreak_of_blanks hb), tokenize_of_blanks hb,
          Option.map_some, List.append_nil]
  have happend := runFrom_append .between s []
  rw [List.append_nil] at happend
  rw [tokenize, tokenize, runFrom_append, happend]
  simp only [hrun]
  rfl

theorem start_of_textIsBlank {c : Char} (h : Text.isBlank c = true) (hc : isBlank c = false) :
    start c = none := by
  have hbreak := isBreak_of_isQuiet (isQuiet_of_textIsBlank h)
  have hne : ∀ d : Char, Text.isBlank d = false → c ≠ d := fun _ => ne_of_textIsBlank h
  have hdigit : ¬ (c = '-' ∨ c.isDigit = true) := by
    rintro (rfl | hdigit)
    · exact absurd h (by decide)
    · exact not_isAlphanum_of_isBreak hbreak (by simp [Char.isAlphanum, hdigit])
  unfold start
  rw [hc, if_neg Bool.false_ne_true, if_neg (hne _ (by decide)), if_neg (hne _ (by decide)),
    if_neg (hne _ (by decide)), if_neg (hne _ (by decide)), if_neg (hne _ (by decide)),
    if_neg (hne _ (by decide)), if_neg (hne _ (by decide)), if_neg hdigit,
    isWordChar_of_isBreak hbreak, if_neg Bool.false_ne_true]

/-- A blank in front that is none of JSON's. -/
theorem tokenize_textBlank {c : Char} (h : Text.isBlank c = true) (hc : isBlank c = false)
    (t : List Char) : tokenize (c :: t) = none := by
  rw [tokenize, runFrom, step, start_of_textIsBlank h hc]
  rfl

/-- Blanks in front of a text that can be read are those of JSON. -/
theorem isBlank_of_tokenize {a s : List Char} {out : List Token}
    (ha : a.all Text.isBlank = true) (h : tokenize (a ++ s) = some out) :
    a.all isBlank = true ∧ tokenize s = some out := by
  induction a with
  | nil => exact ⟨rfl, h⟩
  | cons c a ih =>
      rw [List.all_cons, Bool.and_eq_true] at ha
      rw [List.cons_append] at h
      cases hc : isBlank c with
      | true =>
          rw [tokenize_blank hc] at h
          obtain ⟨hall, hs⟩ := ih ha.2 h
          exact ⟨by rw [List.all_cons, hc, hall]; rfl, hs⟩
      | false =>
          rw [tokenize_textBlank ha.1 hc] at h
          cases h

theorem tokenize_of_textBlanks {b : List Char} {out : List Token}
    (hb : b.all Text.isBlank = true) (h : tokenize b = some out) : out = [] := by
  rw [← List.append_nil b] at h
  exact (Option.some.inj (isBlank_of_tokenize hb h).2).symm

/-- Quiet characters at the end of a text are read by themselves. -/
theorem tokenize_append_quiet {s q : List Char} {out : List Token} (hq : q.all isQuiet = true)
    (h : tokenize (s ++ q) = some out) :
    ∃ before after, tokenize q = some after ∧ out = before ++ after := by
  rw [tokenize, runFrom_append] at h
  obtain ⟨⟨before, state⟩, -, hrest⟩ := Option.bind_eq_some_iff.1 h
  obtain ⟨after, hafter, rfl⟩ := Option.map_eq_some_iff.1 hrest
  cases hfinish : finish state with
  | none =>
      rw [runFrom_of_isQuiet hq hfinish] at hafter
      cases hafter
  | some ended =>
      have hbreak : StartsWithBreak q := fun c hc =>
        isBreak_of_isQuiet (List.all_eq_true.1 hq c (List.mem_of_mem_head? hc))
      rw [runFrom_of_finish hfinish hbreak] at hafter
      obtain ⟨tokens, htokens, rfl⟩ := Option.map_eq_some_iff.1 hafter
      exact ⟨before ++ ended, tokens, htokens, (List.append_assoc _ _ _).symm⟩

theorem all_isQuiet {b : List Char} (hb : b.all Text.isBlank = true) : b.all isQuiet = true :=
  List.all_eq_true.2 fun c hc => isQuiet_of_textIsBlank (List.all_eq_true.1 hb c hc)

/-- The blanks after a text that can be read are those of JSON too. -/
theorem isBlank_of_tokenize_append {s b : List Char} {out : List Token}
    (hb : b.all Text.isBlank = true) (h : tokenize (s ++ b) = some out) :
    b.all isBlank = true := by
  obtain ⟨before, after, hafter, -⟩ := tokenize_append_quiet (all_isQuiet hb) h
  rw [← List.append_nil b] at hafter
  exact (isBlank_of_tokenize hb hafter).1

/-- A text that ends with a comma and blanks ends with that token, if it can be read. -/
theorem tokenize_append_comma {u b : List Char} {out : List Token}
    (hb : b.all Text.isBlank = true) (h : tokenize (u ++ ',' :: b) = some out) :
    out.getLast? = some .comma := by
  have hquiet : (',' :: b).all isQuiet = true := by
    rw [List.all_cons, all_isQuiet hb]
    rfl
  obtain ⟨before, after, hafter, rfl⟩ := tokenize_append_quiet hquiet h
  rw [tokenize_mark (m := .comma) rfl] at hafter
  obtain ⟨rest, hblanks, rfl⟩ := Option.map_eq_some_iff.1 hafter
  rw [tokenize_of_textBlanks hb hblanks]
  exact List.getLast?_concat

end Switchboard.Json.Lexer
