import Switchboard.Proofs.Json.Lexing

/-!
# Numbers and strings of JSON texts

What the text of a number looks like, and that the texts of integers and of strings are read back as
what they were printed from.
-/

namespace Switchboard.Json

open Decimal Lexer

/-! ## The texts of numbers -/

/-- The parts of the text of a number, each as it is written. -/
structure NumberParts (sign whole fraction exponent : List Char) : Prop where
  sign : sign = [] ∨ sign = ['-']
  whole_ne_nil : whole ≠ []
  whole : whole.all Char.isDigit = true
  fraction : fraction = [] ∨ ∃ digits, fraction = '.' :: digits ∧ digits.all Char.isDigit = true
  exponent : exponent = [] ∨ ∃ mark sign digits, exponent = mark :: (sign ++ digits) ∧
    (mark = 'e' ∨ mark = 'E') ∧ (sign = [] ∨ sign = ['+'] ∨ sign = ['-']) ∧
    digits.all Char.isDigit = true

/-- The text of a sign. -/
def signText : Sign → List Char
  | .absent => []
  | .plus => ['+']
  | .minus => ['-']

theorem signText_takeSign (s : List Char) : signText (takeSign s).1 ++ (takeSign s).2 = s := by
  unfold takeSign
  split <;> rfl

theorem exponent_parts {s : List Char} {e : Option Int} (h : tail? s = some e) :
    s = [] ∨ ∃ mark sign digits, s = mark :: (sign ++ digits) ∧
      (mark = 'e' ∨ mark = 'E') ∧ (sign = [] ∨ sign = ['+'] ∨ sign = ['-']) ∧
      digits.all Char.isDigit = true := by
  cases s with
  | nil => exact Or.inl rfl
  | cons mark rest =>
      rw [tail?] at h
      by_cases hmark : mark = 'e' ∨ mark = 'E'
      · rw [if_pos hmark] at h
        obtain ⟨value, hvalue, -⟩ := Option.map_eq_some_iff.1 h
        refine Or.inr ⟨mark, signText (takeSign rest).1, (takeSign rest).2, ?_, hmark, ?_, ?_⟩
        · rw [signText_takeSign]
        · cases (takeSign rest).1 with
          | absent => exact Or.inl rfl
          | plus => exact Or.inr (Or.inl rfl)
          | minus => exact Or.inr (Or.inr rfl)
        · cases hdigits : (takeSign rest).2.all Char.isDigit with
          | true => rfl
          | false =>
              rw [exponent?] at hvalue
              dsimp only at hvalue
              rw [hdigits, Bool.not_false, Bool.or_true, if_pos rfl] at hvalue
              cases hvalue
      · rw [if_neg hmark] at h
        cases h

/-- The parts of a numeral are those of its text. -/
theorem numeral_parts {s : List Char} {n : Numeral} (h : numeral? s = some n) :
    ∃ fraction exponent, s = signText n.sign ++ n.whole ++ fraction ++ exponent ∧
      n.whole.all Char.isDigit = true ∧
      (fraction = [] ∨ ∃ digits, fraction = '.' :: digits ∧ digits.all Char.isDigit = true) ∧
      (tail? exponent).isSome = true := by
  have hs := signText_takeSign s
  unfold numeral? at h
  dsimp only at h
  have hwhole := List.takeWhile_append_dropWhile (p := Char.isDigit) (l := (takeSign s).2)
  split at h
  · next rest hrest =>
    obtain ⟨e, he, rfl⟩ := Option.map_eq_some_iff.1 h
    refine ⟨'.' :: rest.takeWhile Char.isDigit, rest.dropWhile Char.isDigit, ?_,
      List.all_takeWhile, Or.inr ⟨_, rfl, List.all_takeWhile⟩, by rw [he]; rfl⟩
    rw [List.append_assoc, List.cons_append, List.takeWhile_append_dropWhile, ← hrest,
      List.append_assoc, hwhole, hs]
  · obtain ⟨e, he, rfl⟩ := Option.map_eq_some_iff.1 h
    refine ⟨[], (takeSign s).2.dropWhile Char.isDigit, ?_, List.all_takeWhile, Or.inl rfl,
      by rw [he]; rfl⟩
    rw [List.append_nil, List.append_assoc, hwhole, hs]

/-- **The text of a number** is a sign, digits, a fraction and an exponent. -/
theorem Number.parts_of_ofText? {s : List Char} {n : Number} (h : Number.ofText? s = some n) :
    ∃ sign whole fraction exponent, s = sign ++ whole ++ fraction ++ exponent ∧
      NumberParts sign whole fraction exponent := by
  obtain ⟨numeral, hallowed, -⟩ := Option.bind_eq_some_iff.1 h
  obtain ⟨hnumeral, hallowed⟩ := Option.filter_eq_some_iff.1 hallowed
  obtain ⟨fraction, exponent, hs, hwhole, hfraction, htail⟩ := numeral_parts hnumeral
  obtain ⟨e, he⟩ := Option.isSome_iff_exists.1 htail
  simp only [isAllowed, Bool.and_eq_true, bne_iff_ne, Bool.not_eq_true', List.isEmpty_eq_false_iff]
    at hallowed
  obtain ⟨⟨⟨hsign, hne⟩, -⟩, -⟩ := hallowed
  refine ⟨signText numeral.sign, numeral.whole, fraction, exponent, hs,
    { sign := ?_, whole_ne_nil := hne, whole := hwhole, fraction := hfraction,
      exponent := exponent_parts he }⟩
  cases hcase : numeral.sign with
  | absent => exact Or.inl rfl
  | minus => exact Or.inr rfl
  | plus => exact absurd hcase hsign

/-- The last character of a text is a digit. -/
def EndsInDigit (s : List Char) : Prop := ∃ front d, s = front ++ [d] ∧ d.isDigit = true

theorem EndsInDigit.append {t : List Char} (h : EndsInDigit t) (s : List Char) :
    EndsInDigit (s ++ t) := by
  obtain ⟨front, d, rfl, hd⟩ := h
  exact ⟨s ++ front, d, (List.append_assoc _ _ _).symm, hd⟩

theorem endsInDigit_of_digits {digits : List Char} (hne : digits ≠ [])
    (h : digits.all Char.isDigit = true) : EndsInDigit digits :=
  ⟨digits.dropLast, digits.getLast hne, (List.dropLast_concat_getLast hne).symm,
    List.all_eq_true.1 h _ (List.getLast_mem hne)⟩

/-- An exponent ends in a digit. -/
theorem endsInDigit_of_tail? {s : List Char} {e : Option Int} (h : tail? s = some e) :
    s = [] ∨ EndsInDigit s := by
  cases s with
  | nil => exact Or.inl rfl
  | cons mark rest =>
      rw [tail?] at h
      split at h
      · obtain ⟨value, hvalue, -⟩ := Option.map_eq_some_iff.1 h
        rw [exponent?] at hvalue
        dsimp only at hvalue
        split at hvalue
        · cases hvalue
        · next hdigits =>
          rw [Bool.not_eq_true, Bool.or_eq_false_iff, Bool.not_eq_false', List.isEmpty_eq_false_iff]
            at hdigits
          have hends := endsInDigit_of_digits hdigits.1 hdigits.2
          rw [← signText_takeSign rest]
          exact Or.inr (hends.append (mark :: signText (takeSign rest).1))
      · cases h

/-- **The text of a number ends in a digit.** -/
theorem Number.endsInDigit_of_ofText? {s : List Char} {n : Number}
    (h : Number.ofText? s = some n) : EndsInDigit s := by
  obtain ⟨numeral, hallowed, -⟩ := Option.bind_eq_some_iff.1 h
  obtain ⟨hnumeral, hallowed⟩ := Option.filter_eq_some_iff.1 hallowed
  simp only [isAllowed, Bool.and_eq_true, bne_iff_ne, Bool.not_eq_true', List.isEmpty_eq_false_iff]
    at hallowed
  obtain ⟨⟨⟨-, hwhole⟩, -⟩, hfraction⟩ := hallowed
  have hsplit := List.takeWhile_append_dropWhile (p := Char.isDigit) (l := (takeSign s).2)
  rw [← signText_takeSign s, ← hsplit]
  refine EndsInDigit.append ?_ _
  unfold numeral? at hnumeral
  dsimp only at hnumeral
  split at hnumeral
  · next rest hrest =>
    obtain ⟨e, he, rfl⟩ := Option.map_eq_some_iff.1 hnumeral
    rw [hrest]
    refine EndsInDigit.append ?_ _
    rw [← List.takeWhile_append_dropWhile (p := Char.isDigit) (l := rest)]
    rcases endsInDigit_of_tail? he with hnil | hends
    · -- without an exponent the fraction is the end
      have hne : rest.takeWhile Char.isDigit ≠ [] := fun hnone => hfraction (congrArg some hnone)
      rw [hnil, List.append_nil]
      exact (endsInDigit_of_digits hne List.all_takeWhile).append ['.']
    · exact hends.append ('.' :: rest.takeWhile Char.isDigit)
  · obtain ⟨e, he, rfl⟩ := Option.map_eq_some_iff.1 hnumeral
    rcases endsInDigit_of_tail? he with hnil | hends
    · rw [hnil, List.append_nil]
      exact endsInDigit_of_digits hwhole List.all_takeWhile
    · exact hends.append _

theorem isNumberChar_of_isDigit {c : Char} (h : c.isDigit = true) : isNumberChar c = true := by
  simp only [isNumberChar, h, Bool.true_or]

theorem all_isNumberChar {digits : List Char} (h : digits.all Char.isDigit = true) :
    digits.all isNumberChar = true :=
  List.all_eq_true.2 fun c hc => isNumberChar_of_isDigit (List.all_eq_true.1 h c hc)

namespace NumberParts

variable {sign whole fraction exponent : List Char}

theorem all_isNumberChar_exponent (h : NumberParts sign whole fraction exponent) :
    exponent.all isNumberChar = true := by
  rcases h.exponent with rfl | ⟨mark, sign, digits, rfl, hmark, hsign, hdigits⟩
  · rfl
  · rw [List.all_cons, List.all_append, all_isNumberChar hdigits]
    rcases hmark with rfl | rfl <;> rcases hsign with rfl | rfl | rfl <;> rfl

theorem all_isNumberChar_unsigned (h : NumberParts sign whole fraction exponent) :
    (whole ++ fraction ++ exponent).all isNumberChar = true := by
  have hfraction : fraction.all isNumberChar = true := by
    rcases h.fraction with rfl | ⟨digits, rfl, hdigits⟩
    · rfl
    · rw [List.all_cons, Json.all_isNumberChar hdigits]
      rfl
  rw [List.all_append, List.all_append, Json.all_isNumberChar h.whole, hfraction,
    h.all_isNumberChar_exponent]
  rfl

theorem all_isNumberChar (h : NumberParts sign whole fraction exponent) :
    (sign ++ whole ++ fraction ++ exponent).all isNumberChar = true := by
  have hsign : sign.all isNumberChar = true := by
    rcases h.sign with rfl | rfl <;> rfl
  rw [List.append_assoc, List.append_assoc, ← List.append_assoc whole, List.all_append, hsign,
    h.all_isNumberChar_unsigned]
  rfl

/-- The text of a number begins as the machine expects it. -/
theorem start (h : NumberParts sign whole fraction exponent) :
    ∃ c rest, sign ++ whole ++ fraction ++ exponent = c :: rest ∧
      (c = '-' ∨ c.isDigit = true) := by
  obtain ⟨d, ds, rfl⟩ := List.exists_cons_of_ne_nil h.whole_ne_nil
  have hd := h.whole
  rw [List.all_cons, Bool.and_eq_true] at hd
  rcases h.sign with rfl | rfl
  · exact ⟨d, _, rfl, Or.inr hd.1⟩
  · exact ⟨'-', _, rfl, Or.inl rfl⟩

end NumberParts

theorem runFrom_numberChars {digits : List Char} (h : digits.all isNumberChar = true)
    (text t : List Char) :
    runFrom (.number text) (digits ++ t) = runFrom (.number (digits.reverse ++ text)) t := by
  induction digits generalizing text with
  | nil => rfl
  | cons c digits ih =>
      rw [List.all_cons, Bool.and_eq_true] at h
      have hstep : step c (.number text) = some ([], .number (c :: text)) := if_pos h.1
      rw [List.cons_append, runFrom_of_step hstep, ih h.2, List.reverse_cons, List.append_assoc,
        List.singleton_append]

/-- The text of a number is the token of that number. -/
theorem tokenize_number {s : List Char} {n : Number} (h : Number.ofText? s = some n) :
    tokenize s = some [.number n] := by
  obtain ⟨sign, whole, fraction, exponent, hs, hparts⟩ := Number.parts_of_ofText? h
  obtain ⟨c, rest, hcons, hc⟩ := hparts.start
  have hall := hparts.all_isNumberChar
  rw [hcons, List.all_cons, Bool.and_eq_true] at hall
  have hrun := runFrom_numberChars hall.2 [c] []
  rw [List.append_nil] at hrun
  rw [hs, hcons] at h ⊢
  rw [tokenize, runFrom, step, start_of_isDigit hc, Option.bind_some]
  dsimp only
  rw [hrun, runFrom, finish, List.reverse_append, List.reverse_reverse, List.reverse_singleton,
    List.singleton_append, h]
  rfl

/-! ## Integers -/

theorem isDigit_ofNat (n : Nat) : (ofNat n).all Char.isDigit = true :=
  List.all_eq_true.2 fun _ hc => Nat.isDigit_of_mem_toDigits (by decide) (by decide) hc

theorem natOf_ofNat (n : Nat) : natOf (ofNat n) = n := Nat.ofDigitChars_ten_toDigits

/-- Only zero begins with that digit. -/
theorem head?_ofNat {n : Nat} (h : 0 < n) : (ofNat n).head? ≠ some '0' := by
  induction n using Nat.strongRecOn with
  | ind n ih =>
      unfold ofNat
      rw [Nat.toDigits_eq_if (by decide)]
      split
      · rw [List.head?_cons, ne_eq, Option.some.injEq, Nat.digitChar_eq_zero]
        exact Nat.pos_iff_ne_zero.1 h
      · next hle =>
        -- the first digit is that of the number without its last one
        have hhead := ih (n / 10) (by omega) (by omega)
        unfold ofNat at hhead
        obtain ⟨d, ds, hds⟩ :=
          List.exists_cons_of_ne_nil (Nat.toDigits_ne_nil (n := n / 10) (b := 10))
        rw [hds] at hhead ⊢
        exact hhead

theorem isAllowed_ofNat (sign : Sign) (hsign : sign ≠ .plus) (n : Nat) :
    Number.isAllowed ⟨sign, ofNat n, none, none⟩ = true := by
  have hempty : (ofNat n).isEmpty = false := List.isEmpty_eq_false_iff.2 Nat.toDigits_ne_nil
  have hzero : ((ofNat n).head? != some '0' || (ofNat n).length == 1) = true := by
    rcases Nat.eq_zero_or_pos n with rfl | hpos
    · rfl
    · rw [Bool.or_eq_true, bne_iff_ne]
      exact Or.inl (head?_ofNat hpos)
  unfold Number.isAllowed
  dsimp only
  rw [hempty, hzero, bne_iff_ne.2 hsign]
  rfl

theorem takeSign_ofNat (n : Nat) : takeSign (ofNat n) = (.absent, ofNat n) := by
  obtain ⟨d, ds, hds⟩ := List.exists_cons_of_ne_nil (Nat.toDigits_ne_nil (n := n) (b := 10))
  have hd := isDigit_ofNat n
  unfold ofNat at hd ⊢
  rw [hds, List.all_cons, Bool.and_eq_true] at hd
  rw [hds]
  unfold takeSign
  split
  · next heq =>
    obtain ⟨rfl, -⟩ := List.cons.inj heq
    exact absurd hd.1 (by decide)
  · next heq =>
    obtain ⟨rfl, -⟩ := List.cons.inj heq
    exact absurd hd.1 (by decide)
  · rfl

theorem numeral?_signed (sign : Sign) (hsign : sign ≠ .plus) (n : Nat) :
    numeral? (signText sign ++ ofNat n) = some ⟨sign, ofNat n, none, none⟩ := by
  have htake : takeSign (signText sign ++ ofNat n) = (sign, ofNat n) := by
    cases sign with
    | absent => exact takeSign_ofNat n
    | plus => exact absurd rfl hsign
    | minus => rfl
  have hdigits : ∀ c ∈ ofNat n, c.isDigit = true := List.all_eq_true.1 (isDigit_ofNat n)
  have hwhole : (ofNat n ++ []).takeWhile Char.isDigit = ofNat n ++ [].takeWhile Char.isDigit :=
    List.takeWhile_append_of_pos hdigits
  have hrest : (ofNat n ++ []).dropWhile Char.isDigit = [].dropWhile Char.isDigit :=
    List.dropWhile_append_of_pos hdigits
  rw [List.append_nil, List.takeWhile_nil, List.append_nil] at hwhole
  rw [List.append_nil, List.dropWhile_nil] at hrest
  unfold numeral?
  rw [htake]
  dsimp only
  rw [hwhole, hrest]
  rfl

/-- Digits after an optional minus denote the integer that they are, if it fits. -/
theorem value?_signed {sign : Sign} {n : Nat} {i : Int}
    (hi : i = if sign = .minus then -(n : Int) else n) (hfits : Number.fits i = true)
    (hzero : sign = .minus → n ≠ 0) :
    Number.value? ⟨sign, ofNat n, none, none⟩ = some (.int i) := by
  have hinteger : (if Numeral.isNegative ⟨sign, ofNat n, none, none⟩ = true
      then -((natOf (ofNat n) : Nat) : Int) else (natOf (ofNat n) : Nat)) = i := by
    rw [natOf_ofNat, hi]
    simp only [Numeral.isNegative, decide_eq_true_eq]
  have hnegative : (Numeral.isNegative ⟨sign, ofNat n, none, none⟩
      && ((natOf (ofNat n) : Nat) : Int) == 0) = false := by
    rw [natOf_ofNat, Bool.and_eq_false_iff, beq_eq_false_iff_ne]
    by_cases hminus : sign = .minus
    · exact Or.inr (Int.ofNat_ne_zero.2 (hzero hminus))
    · exact Or.inl (decide_eq_false hminus)
  unfold Number.value?
  dsimp only
  rw [hinteger, hfits, hnegative]
  rfl

/-- **Integers that fit are read as themselves.** -/
theorem ofText?_ofInt {n : Int} (h : Number.fits n = true) :
    Number.ofText? (Decimal.ofInt n) = some (.int n) := by
  cases n with
  | ofNat n =>
      have hnumeral := numeral?_signed .absent (by decide) n
      rw [signText, List.nil_append] at hnumeral
      rw [Decimal.ofInt, Number.ofText?, hnumeral, Option.filter_some,
        if_pos (isAllowed_ofNat .absent (by decide) n), Option.bind_some]
      exact value?_signed rfl h (fun hminus => by cases hminus)
  | negSucc n =>
      have hnumeral := numeral?_signed .minus (by decide) (n + 1)
      rw [signText, List.singleton_append] at hnumeral
      rw [Decimal.ofInt, Number.ofText?, hnumeral, Option.filter_some,
        if_pos (isAllowed_ofNat .minus (by decide) (n + 1)), Option.bind_some]
      exact value?_signed rfl h (fun _ => Nat.succ_ne_zero n)

/-! ## Strings -/

theorem digitIn?_digitChar : ∀ k < 16, digitIn? 16 (Nat.digitChar k) = some k := by
  decide

theorem step_backslash (text : List Char) : step '\\' (.string text) = some ([], .escape text) :=
  rfl

theorem runFrom_escaped {c e : Char} (h : escaped? e = some c) (hu : e ≠ 'u')
    (text t : List Char) :
    runFrom (.string text) ('\\' :: e :: t) = runFrom (.string (c :: text)) t := by
  have hstep : step e (.escape text) = some ([], .string (c :: text)) := by
    rw [step, if_neg hu, h, Option.map_some]
  rw [runFrom_of_step (step_backslash text), runFrom_of_step hstep]

/-- One digit of a code that is not the last. -/
theorem runFrom_digit {c : Char} {k owed : Nat} (h : digitIn? 16 c = some k) (howed : owed ≠ 1)
    (text t : List Char) (high : Option Nat) (value : Nat) :
    runFrom (.code text high value owed) (c :: t)
      = runFrom (.code text high (value * 16 + k) (owed - 1)) t := by
  refine runFrom_of_step ?_ t
  rw [step, h, Option.bind_some]
  exact if_neg howed

theorem runFrom_lastDigit {c : Char} {k value : Nat} (h : digitIn? 16 c = some k)
    (hcode : value * 16 + k < 0xD800) (text t : List Char) :
    runFrom (.code text none value 1) (c :: t)
      = runFrom (.string (Char.ofNat (value * 16 + k) :: text)) t := by
  have hcode : code? text none (value * 16 + k)
      = some (.string (Char.ofNat (value * 16 + k) :: text)) := by
    unfold code?
    rw [decide_eq_false (by omega), decide_eq_false (p := 0xDC00 ≤ value * 16 + k) (by omega)]
    rfl
  refine runFrom_of_step ?_ t
  rw [step, h, Option.bind_some]
  dsimp only
  rw [if_pos rfl, hcode, Option.map_some]

theorem runFrom_plain {c : Char} (hquote : c ≠ '"') (hbackslash : c ≠ '\\')
    (hcontrol : ¬ c.toNat < 0x20) (text t : List Char) :
    runFrom (.string text) (c :: t) = runFrom (.string (c :: text)) t := by
  refine runFrom_of_step ?_ t
  rw [step, if_neg hquote, if_neg hbackslash, if_neg hcontrol]

/-- A control character has a code of four digits, of which the first two are zeros. -/
theorem runFrom_control {c : Char} (h : c.toNat < 0x20) (text t : List Char) :
    runFrom (.string text) ('\\' :: 'u' :: '0' :: '0' :: Nat.digitChar (c.toNat / 16) ::
        Nat.digitChar (c.toNat % 16) :: t)
      = runFrom (.string (c :: text)) t := by
  have hhigh := digitIn?_digitChar (c.toNat / 16) (by omega)
  have hlow := digitIn?_digitChar (c.toNat % 16) (by omega)
  have hzero : digitIn? 16 '0' = some 0 := rfl
  have hvalue : ((0 * 16 + 0) * 16 + 0) * 16 + c.toNat / 16 = c.toNat / 16 := by omega
  have hchar : c.toNat / 16 * 16 + c.toNat % 16 = c.toNat := by omega
  have hcode : runFrom (.string text) ('\\' :: 'u' :: '0' :: '0' :: Nat.digitChar (c.toNat / 16) ::
        Nat.digitChar (c.toNat % 16) :: t)
      = runFrom (.code text none 0 4) ('0' :: '0' :: Nat.digitChar (c.toNat / 16) ::
        Nat.digitChar (c.toNat % 16) :: t) := by
    have hstep : step 'u' (.escape text) = some ([], .code text none 0 4) := rfl
    rw [runFrom_of_step (step_backslash text), runFrom_of_step hstep]
  rw [hcode, runFrom_digit hzero (by decide), runFrom_digit hzero (by decide),
    runFrom_digit hhigh (by decide), hvalue, runFrom_lastDigit hlow (by omega), hchar,
    Char.ofNat_toNat]

/-- A character is escaped by a letter of its own, by its code, or not at all. -/
theorem escapeChar_cases (c : Char) :
    (∃ e, escapeChar c = ['\\', e] ∧ escaped? e = some c ∧ e ≠ 'u') ∨
    (c.toNat < 0x20 ∧ escapeChar c = ['\\', 'u', '0', '0', Nat.digitChar (c.toNat / 16),
      Nat.digitChar (c.toNat % 16)]) ∨
    (c ≠ '"' ∧ c ≠ '\\' ∧ ¬ c.toNat < 0x20 ∧ escapeChar c = [c]) := by
  by_cases hletter : c = '"' ∨ c = '\\' ∨ c = '\x08' ∨ c = '\x0c' ∨ c = '\n' ∨ c = '\r' ∨ c = '\t'
  · rcases hletter with rfl | rfl | rfl | rfl | rfl | rfl | rfl <;>
      exact Or.inl ⟨_, rfl, rfl, by decide⟩
  · simp only [not_or] at hletter
    obtain ⟨hquote, hbackslash, hb, hf, hn, hr, ht⟩ := hletter
    unfold escapeChar
    rw [if_neg hquote, if_neg hbackslash, if_neg hb, if_neg hf, if_neg hn, if_neg hr, if_neg ht]
    by_cases hcontrol : c.toNat < 0x20
    · exact Or.inr (Or.inl ⟨hcontrol, if_pos hcontrol⟩)
    · exact Or.inr (Or.inr ⟨hquote, hbackslash, hcontrol, if_neg hcontrol⟩)

/-- A character that was escaped is read as itself. -/
theorem runFrom_escapeChar (c : Char) (text t : List Char) :
    runFrom (.string text) (escapeChar c ++ t) = runFrom (.string (c :: text)) t := by
  rcases escapeChar_cases c with
    ⟨e, hc, hescaped, hu⟩ | ⟨hcontrol, hc⟩ | ⟨hquote, hbackslash, hcontrol, hc⟩
  · rw [hc]
    exact runFrom_escaped hescaped hu text t
  · rw [hc]
    exact runFrom_control hcontrol text t
  · rw [hc]
    exact runFrom_plain hquote hbackslash hcontrol text t

/-- **A quoted text is the token of that text.** -/
theorem tokenize_quote (s t : List Char) :
    tokenize (quote s ++ t) = (tokenize t).map (.string (String.ofList s) :: ·) := by
  have hcontent : ∀ (s text t : List Char),
      runFrom (.string text) (s.flatMap escapeChar ++ t)
        = runFrom (.string (s.reverse ++ text)) t := by
    intro s
    induction s with
    | nil => exact fun _ _ => rfl
    | cons c s ih =>
        intro text t
        rw [List.flatMap_cons, List.append_assoc, runFrom_escapeChar, ih, List.reverse_cons,
          List.append_assoc, List.singleton_append]
  have hstart : step '"' .between = some ([], .string []) := rfl
  rw [tokenize, quote, List.cons_append, List.cons_append, runFrom_of_step hstart,
    List.append_assoc, hcontent, List.singleton_append, runFrom, step, if_pos rfl,
    Option.bind_some, List.append_nil, List.reverse_reverse]
  rfl

end Switchboard.Json
