import Switchboard.Proofs.Literal.Decoding

/-!
# Whole numbers in other bases

A whole number may be written in the bases 16, 8 and 2, and then it should be the number that it is
in decimal, by itself or in a list of integers. It is, if its magnitude has room in a signed number
of 64 bits, for it is converted through one; a number beyond that is no literal
(`parse_radix`). In decimal there is room for more: for the least of the signed numbers, whose
magnitude is too large by one, and for the greatest half of the unsigned ones.

`Radix` relates a spelling to its number, and `Place` is a text with one place in it for an
integer. Where the spelling is converted, it is loosened to the decimal numeral wherever it stands
(`Radix.loosens`, `Place.decodes`); where it is not, neither reading of the text takes it
(`Place.value?_radix`).
-/

namespace Switchboard.Literal

open Json (Token tokenize parse? Reads ReadsItems nestingLimit depthItems)
open Json.Lexer (StartsWithBreak startsWithBreak_cons)

/-! ## Spellings in a base -/

/-- A digit of a base: a figure, or a letter in either case. -/
inductive Digit (base : Nat) : Char → Nat → Prop where
  | lower {k : Nat} : k < base → Digit base (Nat.digitChar k) k
  | upper {k : Nat} : k < base → Digit base (Nat.digitChar k).toUpper k

/-- Digits with their number; between two digits there may be one underscore. -/
inductive Digits (base : Nat) : List Char → Nat → Prop where
  | one {c : Char} {k : Nat} : Digit base c k → Digits base [c] k
  | next {s : List Char} {m k : Nat} {c : Char} : Digits base s m → Digit base c k →
      Digits base (s ++ [c]) (m * base + k)
  | underscore {s : List Char} {m k : Nat} {c : Char} : Digits base s m → Digit base c k →
      Digits base (s ++ ['_', c]) (m * base + k)

/-- What a number in a base begins with. -/
inductive Prefix : Nat → List Char → Prop where
  | hexadecimal {c : Char} : c = 'x' ∨ c = 'X' → Prefix 16 ['0', c]
  | octal {c : Char} : c = 'o' ∨ c = 'O' → Prefix 8 ['0', c]
  | binary {c : Char} : c = 'b' ∨ c = 'B' → Prefix 2 ['0', c]

/-- The spellings of an integer in a base of its own. Only a negative one has a minus. -/
inductive Radix : List Char → Int → Prop where
  | natural {base m : Nat} {p s : List Char} : Prefix base p → Digits base s m →
      Radix (p ++ s) m
  | negative {base m : Nat} {p s : List Char} : Prefix base p → Digits base s m → 0 < m →
      Radix ('-' :: (p ++ s)) (-m)

/-! ## Places for an integer -/

/-- An integer in decimal, with any blanks around it. -/
inductive Plainly : List Char → Int → Prop where
  | padded {a b : List Char} {n : Int} : Blanks a → Json.Number.fits n = true → Blanks b →
      Plainly (a ++ Decimal.ofInt n ++ b) n

/-- Integers in decimal, with commas between them. -/
inductive Integers : List Char → List Int → Prop where
  | one {s : List Char} {n : Int} : Plainly s n → Integers s [n]
  | more {s t : List Char} {n : Int} {ns : List Int} : Plainly s n → Integers t ns →
      Integers (s ++ ',' :: t) (n :: ns)

/-- Items of a list of integers, all in decimal but one, for which there is a place. -/
inductive Row : (List Char → List Char) → (Int → List Int) → Prop where
  | last {a b : List Char} : Blanks a → Blanks b → Row (fun x => a ++ x ++ b) (fun n => [n])
  | first {a b t : List Char} {ns : List Int} : Blanks a → Blanks b → Integers t ns →
      Row (fun x => a ++ x ++ b ++ ',' :: t) (fun n => n :: ns)
  | more {s : List Char} {m : Int} {f : List Char → List Char} {ns : Int → List Int} :
      Plainly s m → Row f ns → Row (fun x => s ++ ',' :: f x) (fun n => m :: ns n)

/-- A text with a place for an integer, alone or in a list, and the value that it has with one. -/
inductive Place : (List Char → List Char) → (Int → Json) → Prop where
  | alone : Place (fun x => x) Json.ofInt
  | list {opening closing : Char} {e : List Char} {f : List Char → List Char}
      {ns : Int → List Int} : Brackets opening closing → Row f ns → Ending e →
      Place (fun x => opening :: (f x ++ e ++ [closing])) (fun n => .array ((ns n).map Json.ofInt))
  | padded {a b : List Char} {f : List Char → List Char} {v : Int → Json} : Blanks a → Place f v →
      Blanks b → Place (fun x => a ++ f x ++ b) v

/-- Every number has digits in every base. -/
theorem digits_toDigits {base : Nat} (hbase : 1 < base) (m : Nat) :
    Digits base (Nat.toDigits base m) m := by
  induction m using Nat.strongRecOn with
  | ind m ih =>
      by_cases hm : m < base
      · rw [Nat.toDigits_of_lt_base hm]
        exact .one (.lower hm)
      · have hless : m / base < m := Nat.div_lt_self (by omega) hbase
        have hlast : m / base * base + m % base = m := Nat.div_add_mod' m base
        have hnext := (ih (m / base) hless).next (.lower (Nat.mod_lt m (by omega)))
        rw [hlast] at hnext
        rwa [Nat.toDigits_of_base_le hbase (by omega)]

/-- Every integer has a spelling in every base that has a prefix. -/
theorem exists_radix {base : Nat} {p : List Char} (hp : Prefix base p) (hbase : 1 < base)
    (n : Int) : ∃ s, Radix s n := by
  by_cases hn : 0 ≤ n
  · obtain ⟨m, rfl⟩ := Int.eq_ofNat_of_zero_le hn
    exact ⟨_, .natural hp (digits_toDigits hbase m)⟩
  · obtain ⟨m, rfl⟩ : ∃ m : Nat, n = -m := ⟨n.natAbs, by omega⟩
    exact ⟨_, .negative hp (digits_toDigits hbase m) (by omega)⟩

/-! ## Digits are read -/

theorem digitIn?_of_le {c : Char} {base k : Nat} (h : Decimal.digitIn? 16 c = some k)
    (hk : k < base) : Decimal.digitIn? base c = some k := by
  unfold Decimal.digitIn? at h ⊢
  dsimp only at h ⊢
  obtain ⟨hvalue, -⟩ := Option.filter_eq_some_iff.1 h
  exact Option.filter_eq_some_iff.2 ⟨hvalue, decide_eq_true hk⟩

/-- What there is to know of the sixteen digits in upper case. -/
theorem digit_upper : ∀ k < 16, Decimal.digitIn? 16 (Nat.digitChar k).toUpper = some k
    ∧ (Nat.digitChar k).toUpper.isAlphanum = true := by
  decide

theorem digit_lower : ∀ k < 16, Decimal.digitIn? 16 (Nat.digitChar k) = some k
    ∧ (Nat.digitChar k).isAlphanum = true := by
  decide

theorem Digit.facts {base : Nat} (hbase : base ≤ 16) {c : Char} {k : Nat} (h : Digit base c k) :
    Decimal.digitIn? base c = some k ∧ c.isAlphanum = true := by
  cases h with
  | lower hk =>
      have hdigit := digit_lower k (by omega)
      exact ⟨digitIn?_of_le hdigit.1 hk, hdigit.2⟩
  | upper hk =>
      have hdigit := digit_upper k (by omega)
      exact ⟨digitIn?_of_le hdigit.1 hk, hdigit.2⟩

theorem natIn?_concat {base m k : Nat} {s : List Char} {c : Char}
    (hs : Decimal.natIn? base s = some m) (hc : Decimal.digitIn? base c = some k) :
    Decimal.natIn? base (s ++ [c]) = some (m * base + k) := by
  unfold Decimal.natIn? at hs ⊢
  split at hs
  · cases hs
  · rw [if_neg (by simp), List.foldlM_append, hs]
    simp [hc]

/-- **Digits are read as their number**, without the underscores. -/
theorem Digits.natIn?_eq {base : Nat} (hbase : base ≤ 16) {s : List Char} {m : Nat}
    (h : Digits base s m) : Decimal.natIn? base (s.filter (· ≠ '_')) = some m := by
  have hkeep {c : Char} {k : Nat} (hc : Digit base c k) : [c].filter (· ≠ '_') = [c] := by
    have hne : c ≠ '_' := by
      rintro rfl
      exact absurd (hc.facts hbase).2 (by decide)
    simp [hne]
  induction h with
  | one hc =>
      rw [hkeep hc]
      simp [Decimal.natIn?, (hc.facts hbase).1]
  | next _ hc ih =>
      rw [List.filter_append, hkeep hc]
      exact natIn?_concat ih (hc.facts hbase).1
  | @underscore s m k c _ hc ih =>
      -- the underscore is gone before the digits are read
      have hdrop : ['_', c].filter (· ≠ '_') = [c].filter (· ≠ '_') := rfl
      rw [List.filter_append, hdrop, hkeep hc]
      exact natIn?_concat ih (hc.facts hbase).1

theorem Digits.chars {base : Nat} (hbase : base ≤ 16) {s : List Char} {m : Nat}
    (h : Digits base s m) : ∀ c ∈ s, c.isAlphanum = true ∨ c = '_' := by
  induction h with
  | one hc =>
      intro d hd
      rw [List.mem_singleton.1 hd]
      exact Or.inl (hc.facts hbase).2
  | next _ hc ih =>
      intro d hd
      rcases List.mem_append.1 hd with hd | hd
      · exact ih d hd
      · rw [List.mem_singleton.1 hd]
        exact Or.inl (hc.facts hbase).2
  | underscore _ hc ih =>
      intro d hd
      rcases List.mem_append.1 hd with hd | hd
      · exact ih d hd
      · rcases List.mem_cons.1 hd with rfl | hd
        · exact Or.inr rfl
        · rw [List.mem_singleton.1 hd]
          exact Or.inl (hc.facts hbase).2

theorem Prefix.le {base : Nat} {p : List Char} (h : Prefix base p) : base ≤ 16 := by
  cases h <;> decide

/-- The two characters of a prefix, with what the second is not. -/
theorem Prefix.facts {base : Nat} {p : List Char} (h : Prefix base p) :
    ∃ c, p = ['0', c] ∧ c.isAlphanum = true ∧ Json.Lexer.isNumberChar c = false
      ∧ c ∉ "nulltruefalse".toList ∧ ∀ s, base? ('0' :: c :: s) = some base := by
  cases h with
  | hexadecimal hc | octal hc | binary hc =>
      refine ⟨_, rfl, ?_⟩
      rcases hc with rfl | rfl <;> exact ⟨by decide, by decide, by decide, fun _ => rfl⟩

/-! ## Numbers in a base are one lexeme -/

section
variable {base m : Nat} {p s : List Char}

theorem chars_of_radix (hp : Prefix base p) (hs : Digits base s m) :
    ∀ c ∈ p ++ s, c.isAlphanum = true ∨ c = '_' := by
  obtain ⟨c, rfl, hc, -⟩ := hp.facts
  intro d hd
  rcases List.mem_append.1 hd with hd | hd
  · rcases List.mem_cons.1 hd with rfl | hd
    · exact Or.inl (by decide)
    · rw [List.mem_singleton.1 hd]
      exact Or.inl hc
  · exact hs.chars hp.le d hd

theorem lexemes?_of_radix (hp : Prefix base p) (hs : Digits base s m) :
    lexemes? (p ++ s) = some [.number (p ++ s)] := by
  have hchars := chars_of_radix hp hs
  obtain ⟨c, rfl, -⟩ := hp.facts
  have hgathers : ∀ d ∈ c :: s, ∀ text, continuesNumber text d = true := by
    intro d hd text
    rcases hchars d (List.mem_cons_of_mem _ hd) with halnum | rfl
    · simp only [continuesNumber, halnum, Bool.true_or]
    · simp only [continuesNumber, BEq.rfl, Bool.or_true, Bool.true_or]
  have hstart : step '0' .between = ([], .number ['0']) := rfl
  have hgathered := lexemesFrom_gathered hgathers ['0'] []
  rw [List.append_nil] at hgathered
  rw [List.cons_append, List.cons_append, List.nil_append, lexemes?, lexemesFrom_of_step hstart,
    hgathered]
  simp [lexemesFrom, finish]

/-- **A number in a base is put in decimal** if it has room, and has no text else. -/
theorem numberText?_of_radix (hp : Prefix base p) (hs : Digits base s m) :
    numberText? (p ++ s) = if m < 9223372036854775808 then some (Decimal.ofNat m) else none := by
  have hread := hs.natIn?_eq hp.le
  obtain ⟨c, rfl, hc, -, -, hbase⟩ := hp.facts
  have hne : c ≠ '_' := by
    rintro rfl
    exact absurd hc (by decide)
  have hfilter : (['0', c] ++ s).filter (· ≠ '_') = '0' :: c :: s.filter (· ≠ '_') := by
    simp [hne]
  have hdrop : ('0' :: c :: s.filter (· ≠ '_')).drop 2 = s.filter (· ≠ '_') := rfl
  unfold numberText?
  dsimp only
  rw [hfilter, hbase]
  dsimp only
  rw [hdrop, hread]
  by_cases hm : m < 9223372036854775808
  · have hsmall : decide ((m : Int) ≤ Decimal.greatestInt64) = true := by
      rw [decide_eq_true_eq, Decimal.greatestInt64]
      omega
    rw [if_pos hm, Option.filter_some, hsmall]
    rfl
  · have hlarge : decide ((m : Int) ≤ Decimal.greatestInt64) = false := by
      rw [decide_eq_false_iff_not, Decimal.greatestInt64]
      omega
    rw [if_neg hm, Option.filter_some, hlarge]
    rfl

end

theorem fits_iff (n : Int) : Json.Number.fits n = true
    ↔ -9223372036854775808 ≤ n ∧ n ≤ 18446744073709551615 := by
  rw [Json.Number.fits, Bool.and_eq_true, decide_eq_true_eq, decide_eq_true_eq, Decimal.leastInt64,
    Decimal.greatestNat64]
  rfl

/-- **A spelling with room is loosened** to the decimal numeral. -/
theorem Radix.loosens {s : List Char} {n : Int} (h : Radix s n)
    (hn : n.natAbs < 9223372036854775808) : Loosens s [.number (.int n)] := by
  have hfits : Json.Number.fits n = true := (fits_iff n).2 (by omega)
  have htokens := Json.tokenize_number (Json.ofText?_ofInt hfits)
  cases h with
  | @natural base m p s hp hs =>
      have htext : Lexeme.text? (.number (p ++ s)) = some (Decimal.ofInt m) := by
        rw [Lexeme.text?, numberText?_of_radix hp hs, if_pos (by omega)]
        rfl
      exact loosens_of_lexeme (lexemes?_of_radix hp hs) (fun _ h => by cases h) htext htokens
  | @negative base m p s hp hs hm =>
      have htext : Lexeme.text? (.number (p ++ s)) = some (Decimal.ofNat m) := by
        rw [Lexeme.text?, numberText?_of_radix hp hs, if_pos (by omega)]
      -- the minus is a lexeme of its own, and only the magnitude is converted
      have hatom := atom_of_lexeme (lexemes?_of_radix hp hs) (fun _ h => by cases h) htext
      have hminus : '-' :: Decimal.ofNat m = Decimal.ofInt (-m) := by
        obtain ⟨k, rfl⟩ : ∃ k, m = k + 1 := ⟨m - 1, by omega⟩
        rfl
      refine hatom.minus.loosens ?_
      rw [hminus]
      exact htokens

/-- The number in a spelling has no text if it has no room. -/
theorem Radix.exists_lexeme {s : List Char} {n : Int} (h : Radix s n) :
    ∃ A text, lexemes? s = some A ∧ .number text ∈ A
      ∧ text.all Json.Lexer.isNumberChar = false
      ∧ (9223372036854775808 ≤ n.natAbs → numberText? text = none) := by
  have hnumber {base m : Nat} {p s : List Char} (hp : Prefix base p) (hs : Digits base s m) :
      (p ++ s).all Json.Lexer.isNumberChar = false
        ∧ (9223372036854775808 ≤ m → numberText? (p ++ s) = none) := by
    refine ⟨?_, fun hm => ?_⟩
    · -- the letter of the prefix is in no number of JSON
      obtain ⟨c, rfl, -, hc, -⟩ := hp.facts
      rw [List.all_append, List.all_cons, List.all_cons, hc]
      simp
    · rw [numberText?_of_radix hp hs, if_neg (by omega)]
  cases h with
  | @natural base m p s hp hs =>
      refine ⟨_, p ++ s, lexemes?_of_radix hp hs, List.mem_singleton.2 rfl, (hnumber hp hs).1, ?_⟩
      exact fun hm => (hnumber hp hs).2 (by omega)
  | @negative base m p s hp hs _ =>
      refine ⟨[.mark '-', .number (p ++ s)], p ++ s, ?_, ?_, (hnumber hp hs).1, ?_⟩
      · rw [lexemes?_mark (by decide), lexemes?_of_radix hp hs]
        rfl
      · exact List.mem_cons_of_mem _ (List.mem_singleton.2 rfl)
      · exact fun hm => (hnumber hp hs).2 (by omega)

/-! ## What cannot be read -/

/-- The numbers among the lexemes of a text of JSON are numbers of JSON. -/
theorem Aligned.all_isNumberChar {T : List Token} {A : List Lexeme} (h : Aligned T A)
    {text : List Char} (hmem : .number text ∈ A) : text.all Json.Lexer.isNumberChar = true := by
  induction h with
  | nil => cases hmem
  | blank _ _ ih | mark _ _ ih | string _ ih | word _ _ ih =>
      rcases List.mem_cons.1 hmem with hfirst | hmem
      · cases hfirst
      · exact ih hmem
  | number _ hchars _ _ ih =>
      rcases List.mem_append.1 hmem with hsign | hmem
      · obtain ⟨c, -, hc⟩ := List.mem_map.1 hsign
        cases hc
      · rcases List.mem_cons.1 hmem with hfirst | hmem
        · cases hfirst
          exact hchars
        · exact ih hmem

/-- **A text with a number that JSON does not know** is no JSON. -/
theorem parse?_of_number {s : List Char} {A : List Lexeme} {text : List Char}
    (hs : lexemes? s = some A) (hmem : .number text ∈ A)
    (htext : text.all Json.Lexer.isNumberChar = false) : parse? s = none := by
  rw [Option.eq_none_iff_forall_ne_some]
  intro v hv
  obtain ⟨T, U, -, -, -, hpieces, -⟩ := loosened_of_parse? hv
  obtain ⟨B, hB, haligned⟩ := hpieces.exists_aligned
  rw [Option.some.inj (hs.symm.trans hB)] at hmem
  rw [haligned.all_isNumberChar hmem] at htext
  cases htext

/-- **Every lexeme that is no comma has a text** in what can be loosened. -/
theorem isSome_text?_of_loosen {A : List Lexeme} {t : List Char} (h : loosenLexemes? A = some t)
    {lexeme : Lexeme} (hmem : lexeme ∈ A) (hcomma : lexeme ≠ .mark ',') :
    lexeme.text?.isSome = true := by
  induction A generalizing t with
  | nil => cases hmem
  | cons first A ih =>
      rcases loosenLexemes?_cases h with ⟨rfl, -, hA⟩ | ⟨front, rest, hfront, hrest, -⟩
      · -- the comma is dropped, and the lexeme stands behind it
        rcases List.mem_cons.1 hmem with rfl | hmem
        · exact absurd rfl hcomma
        · exact ih hA hmem
      · rcases List.mem_cons.1 hmem with rfl | hmem
        · rw [hfront]
          rfl
        · exact ih hrest hmem

/-! ## Integers in a place -/

theorem Plainly.spelling {s : List Char} {n : Int} : Plainly s n → Spelling s (Json.ofInt n)
  | .padded ha hfits hb => .padded ha (.int hfits) hb

theorem Integers.spelled {s : List Char} {ns : List Int} :
    Integers s ns → SpelledItems s (ns.map Json.ofInt)
  | .one hs => .one hs.spelling
  | .more hs ht => .more hs.spelling ht.spelled

theorem Row.spelled {f : List Char → List Char} {ns : Int → List Int} {n : Int}
    (hfits : Json.Number.fits n = true) :
    Row f ns → SpelledItems (f (Decimal.ofInt n)) ((ns n).map Json.ofInt)
  | .last ha hb => .one (.padded ha (.int hfits) hb)
  | .first ha hb ht => .more (.padded ha (.int hfits) hb) ht.spelled
  | .more hs hrow => .more hs.spelling (hrow.spelled hfits)

/-- In decimal the text with an integer in its place is a spelling. -/
theorem Place.spelling {f : List Char → List Char} {v : Int → Json} {n : Int}
    (hfits : Json.Number.fits n = true) : Place f v → Spelling (f (Decimal.ofInt n)) (v n)
  | .alone => .int hfits
  | .list hbrackets hrow he => .array hbrackets (hrow.spelled hfits) he
  | .padded ha hplace hb => .padded ha (hplace.spelling hfits) hb

theorem depthItems_ofInt (ns : List Int) : depthItems (ns.map Json.ofInt) = 0 := by
  induction ns with
  | nil => rfl
  | cons n ns ih =>
      rw [List.map_cons, depthItems, ih]
      rfl

theorem Place.depth_le {f : List Char → List Char} {v : Int → Json} (h : Place f v) (n : Int) :
    (v n).depth ≤ nestingLimit := by
  induction h with
  | alone => exact Nat.zero_le _
  | list _ _ _ =>
      rw [Json.depth, depthItems_ofInt]
      decide
  | padded _ _ _ ih => exact ih

/-- **Whatever is loosened to an integer** is one in its row. -/
theorem Row.decodes {x : List Char} {n : Int} (hx : Loosens x [.number (.int n)])
    {f : List Char → List Char} {ns : Int → List Int} (h : Row f ns) :
    ∃ T, Loosens (f x) T
      ∧ ReadsItems (depthItems ((ns n).map Json.ofInt)) T ((ns n).map Json.ofInt) := by
  have hreads : Reads 0 [.number (.int n)] (Json.ofInt n) := .atom rfl fun _ => rfl
  induction h with
  | last ha hb =>
      rw [depthItems_ofInt]
      exact ⟨_, hx.padded ha hb, .one hreads⟩
  | first ha hb ht =>
      obtain ⟨T, hT, hitems⟩ := ht.spelled.decodes
      exact ⟨_, (hx.padded ha hb).separated hT rfl, .more hreads hitems⟩
  | more hs _ ih =>
      obtain ⟨T, hT, hitems⟩ := ih
      obtain ⟨S, hS, hitem⟩ := hs.spelling.decodes
      exact ⟨_, hS.separated hT rfl, .more hitem hitems⟩

theorem Place.decodes {x : List Char} {n : Int} (hx : Loosens x [.number (.int n)])
    {f : List Char → List Char} {v : Int → Json} (h : Place f v) : Decodes (f x) (v n) := by
  induction h with
  | alone => exact ⟨_, hx, .atom rfl fun _ => rfl⟩
  | list hbrackets hrow he =>
      obtain ⟨T, ⟨A, t, hcontent, -⟩, hitems⟩ := hrow.decodes hx
      exact ⟨_, hcontent.inBrackets hbrackets he, hitems.array⟩
  | padded ha _ hb ih =>
      obtain ⟨T, hloosens, hreads⟩ := ih
      exact ⟨T, hloosens.padded ha hb, hreads⟩

/-! ## Lexemes in a place -/

theorem lexemes?_separated {s t : List Char} {A B : List Lexeme} (hs : lexemes? s = some A)
    (ht : lexemes? t = some B) : lexemes? (s ++ ',' :: t) = some (A ++ .mark ',' :: B) := by
  rw [lexemes?_append hs (startsWithBreak_cons (by decide) t), lexemes?_mark (by decide), ht]
  rfl

theorem Spelling.exists_lexemes {s : List Char} {v : Json} (h : Spelling s v) :
    ∃ A, lexemes? s = some A := by
  obtain ⟨T, ⟨A, t, hcontent, -⟩, -⟩ := h.decodes
  exact ⟨A, hcontent.lexemes⟩

/-- The lexemes of what is put in a row are among those of the row. -/
theorem Row.exists_lexemes {x : List Char} {X : List Lexeme} (hx : lexemes? x = some X)
    {f : List Char → List Char} {ns : Int → List Int} (h : Row f ns) :
    ∃ A, lexemes? (f x) = some A ∧ ∀ lexeme ∈ X, lexeme ∈ A := by
  induction h with
  | last ha hb =>
      refine ⟨_, lexemes?_padded ha hb hx, fun lexeme hmem => ?_⟩
      exact List.mem_append_right _ (List.mem_append_left _ hmem)
  | first ha hb ht =>
      obtain ⟨T, ⟨B, u, hB, -⟩, -⟩ := ht.spelled.decodes
      refine ⟨_, lexemes?_separated (lexemes?_padded ha hb hx) hB.lexemes, fun lexeme hmem => ?_⟩
      exact List.mem_append_left _ (List.mem_append_right _ (List.mem_append_left _ hmem))
  | more hs _ ih =>
      obtain ⟨A, hA, hsub⟩ := ih
      obtain ⟨B, hB⟩ := hs.spelling.exists_lexemes
      refine ⟨_, lexemes?_separated hB hA, fun lexeme hmem => ?_⟩
      exact List.mem_append_right _ (List.mem_cons_of_mem _ (hsub lexeme hmem))

theorem Brackets.facts {opening closing : Char} (h : Brackets opening closing) :
    isMark opening = true
      ∧ ∃ m, Json.Lexer.mark? (markText closing) = some m ∧ m.closes = true := by
  cases h with
  | square | round => exact ⟨by decide, .closeArray, rfl, rfl⟩

theorem Place.exists_lexemes {x : List Char} {X : List Lexeme} (hx : lexemes? x = some X)
    {f : List Char → List Char} {v : Int → Json} (h : Place f v) :
    ∃ A, lexemes? (f x) = some A ∧ ∀ lexeme ∈ X, lexeme ∈ A := by
  induction h with
  | alone => exact ⟨X, hx, fun _ hmem => hmem⟩
  | @list opening closing e f ns hbrackets hrow he =>
      obtain ⟨A, hA, hsub⟩ := hrow.exists_lexemes hx
      obtain ⟨hmark, m, hm, hcloses⟩ := hbrackets.facts
      obtain ⟨C, u, hC⟩ := he.exists_closing hm hcloses
      refine ⟨.mark opening :: (A ++ C), ?_, fun lexeme hmem => ?_⟩
      · rw [lexemes?_mark hmark, List.append_assoc, lexemes?_append hA hC.breaks.1, hC.lexemes]
        rfl
      · exact List.mem_cons_of_mem _ (List.mem_append_left _ (hsub lexeme hmem))
  | padded ha _ hb ih =>
      obtain ⟨A, hA, hsub⟩ := ih
      refine ⟨_, lexemes?_padded ha hb hA, fun lexeme hmem => ?_⟩
      exact List.mem_append_right _ (List.mem_append_left _ (hsub lexeme hmem))

theorem Place.blankEnds {x : List Char} (hx : BlankEnds x) {f : List Char → List Char}
    {v : Int → Json} (h : Place f v) : BlankEnds (f x) := by
  induction h with
  | alone => exact hx
  | list hbrackets _ _ => exact blankEnds_enclosed hbrackets.isBlank.1 hbrackets.isBlank.2 _
  | padded ha _ hb ih => exact blankEnds_padded ha ih hb

theorem Radix.blankEnds {s : List Char} {n : Int} (h : Radix s n) : BlankEnds s := by
  have hquiet {c : Char} (hc : c.isAlphanum = true ∨ c = '_') : Text.isBlank c = false := by
    rcases hc with halnum | rfl
    · rw [← Bool.not_eq_true]
      intro hblank
      have hbreak := Json.Lexer.isBreak_of_isQuiet (Json.Lexer.isQuiet_of_textIsBlank hblank)
      exact Json.Lexer.not_isAlphanum_of_isBreak hbreak halnum
    · decide
  cases h with
  | natural hp hs => exact blankEnds_of_forall fun c hc => hquiet (chars_of_radix hp hs c hc)
  | negative hp hs _ =>
      refine blankEnds_of_forall fun c hc => ?_
      rcases List.mem_cons.1 hc with rfl | hc
      · decide
      · exact hquiet (chars_of_radix hp hs c hc)

/-! ## Values -/

/-- `parse_radix`, on lists of characters. -/
theorem Place.value?_radix {f : List Char → List Char} {v : Int → Json} (h : Place f v)
    {s : List Char} {n : Int} (hs : Radix s n) :
    value? (f s) = if n.natAbs < 9223372036854775808 then some (v n) else none := by
  obtain ⟨X, text, hX, hmem, hnumber, hlarge⟩ := hs.exists_lexeme
  obtain ⟨A, hA, hsub⟩ := h.exists_lexemes hX
  have hvalue : value? (f s) = (parse? (f s)).or (looseValue? (f s)) := rfl
  -- no text with a prefix is JSON, so it is up to loosening
  rw [hvalue, parse?_of_number hA (hsub _ hmem) hnumber, Option.none_or,
    looseValue?_eq (h.blankEnds hs.blankEnds)]
  split
  · rename_i hsmall
    obtain ⟨t, hall, hparse⟩ := (h.decodes (hs.loosens hsmall)).exists_text (h.depth_le n)
    rw [hall, Option.bind_some, hparse]
  · rename_i hroom
    have hnone : loosenAll? (f s) = none := by
      rw [loosenAll?, hA, Option.bind_some, Option.eq_none_iff_forall_ne_some]
      intro t ht
      have htext := isSome_text?_of_loosen ht (hsub _ hmem) (fun h => by cases h)
      rw [Lexeme.text?, hlarge (by omega)] at htext
      cases htext
    rw [hnone, Option.bind_none]

/--
**A whole number in a base of its own**, by itself or in a list of integers, is read as it is in
decimal, if its magnitude has room in a signed number of 64 bits. If it has none, it is no literal
and makes the list none, though in decimal it is one.
-/
theorem parse_radix {f : List Char → List Char} {v : Int → Json} {s : List Char} {n : Int}
    (hplace : Place f v) (hs : Radix s n) (hleast : -9223372036854775808 ≤ n)
    (hgreatest : n < 18446744073709551616) :
    parse (String.ofList (f (Decimal.ofInt n))) = .ok (v n)
      ∧ parse (String.ofList (f s))
        = if n.natAbs < 9223372036854775808 then .ok (v n)
          else .error (.malformedLiteral (String.ofList (f s))) := by
  have hfits : Json.Number.fits n = true := (fits_iff n).2 ⟨hleast, by omega⟩
  constructor
  · refine parse_eq_ok_iff.2 ?_
    rw [String.toList_ofList]
    exact value?_of_spelling (hplace.spelling hfits) (hplace.depth_le n)
  · rw [parse, String.toList_ofList, hplace.value?_radix hs]
    by_cases hroom : n.natAbs < 9223372036854775808
    · rw [if_pos hroom, if_pos hroom]
    · rw [if_neg hroom, if_neg hroom]

/-- A tuple with 255 in capital and small letters, with a zero and underscores to spare. -/
theorem parse_radix_tuple :
    parse "( 1,0X0_f_F ,-2,)" = .ok (.array [Json.ofInt 1, Json.ofInt 255, Json.ofInt (-2)]) := by
  have hnone : Blanks [] := rfl
  have hblank : Blanks [' '] := rfl
  have hdigits : Digits 16 "0_f_F".toList 255 :=
    .underscore (.underscore (.one (.lower (k := 0) (by decide))) (.lower (k := 15) (by decide)))
      (.upper (k := 15) (by decide))
  have hradix : Radix ("0X".toList ++ "0_f_F".toList) 255 :=
    .natural (.hexadecimal (Or.inr rfl)) hdigits
  have hone : Plainly ([' '] ++ Decimal.ofInt 1 ++ []) 1 := .padded hblank rfl hnone
  have htwo : Plainly ([] ++ Decimal.ofInt (-2) ++ []) (-2) := .padded hnone rfl hnone
  have hrow := Row.more hone (.first hnone hblank (.one htwo))
  have hparse := (parse_radix (.list .round hrow (.comma hnone)) hradix (by decide) (by decide)).2
  exact hparse

/-- **A number without room**: in decimal it is a literal, in the base 16 it is none. -/
theorem not_parse_radix :
    ¬ ∀ (f : List Char → List Char) (v : Int → Json) (s : List Char) (n : Int), Place f v →
      Radix s n → -9223372036854775808 ≤ n → n < 18446744073709551616 →
      parse (String.ofList (f s)) = parse (String.ofList (f (Decimal.ofInt n))) := by
  intro hclaim
  have hradix : Radix ("0x".toList ++ Nat.toDigits 16 18446744073709551615)
      (18446744073709551615 : Nat) :=
    .natural (.hexadecimal (Or.inl rfl)) (digits_toDigits (by decide) _)
  have hsame := hclaim _ _ _ _ .alone hradix (by decide) (by decide)
  have hdecimal : (parse "18446744073709551615").toOption.isSome = true := by decide +kernel
  have hhexadecimal : (parse "0xffffffffffffffff").toOption.isSome = false := by decide +kernel
  have htexts : parse "0xffffffffffffffff" = parse "18446744073709551615" := hsame
  rw [htexts, hdecimal] at hhexadecimal
  cases hhexadecimal

end Switchboard.Literal
