import Switchboard.Proofs.Literal.Agreement

/-!
# Loose spellings

The texts that spell a JSON value loosely: `None`, `True` and `False` for its three words, strings
in either kind of quotes, tuples as well as lists, a comma at the end if one likes, and blanks
wherever two tokens meet. `Spelling` relates such a text to the value that it spells, and
`exists_spelling_iff` says which values have one.

Some of these texts are JSON as well. What they have in common is that they are plain
(`Spelling.plain`) and that what blanks they begin and end with are those of JSON
(`Spelling.blankEnds`).
-/

namespace Switchboard.Literal

/-! ## Texts that spell a value -/

/-- A character of a string: the quote around the string and the backslash have a backslash in
front of them, every other character is written as it is. -/
def spellChar (quote c : Char) : List Char :=
  if c = '\\' ∨ c = quote then ['\\', c] else [c]

/-- A string in quotes. -/
def spellString (quote : Char) (s : List Char) : List Char :=
  quote :: (s.flatMap (spellChar quote) ++ [quote])

/-- Any blanks of JSON, or none. -/
def Blanks (b : List Char) : Prop := b.all Json.Lexer.isBlank = true

/-- The two kinds of quotes. -/
def IsQuote (quote : Char) : Prop := quote = '\'' ∨ quote = '"'

/-- The brackets around an array: square ones for a list, round ones for a tuple. -/
inductive Brackets : Char → Char → Prop where
  | square : Brackets '[' ']'
  | round : Brackets '(' ')'

/-- What may stand between the last item and the bracket after it: nothing, or one comma. -/
inductive Ending : List Char → Prop where
  | nothing : Ending []
  | comma {b : List Char} : Blanks b → Ending (',' :: b)

/-- A key of an object: a string in quotes, with any blanks around it. -/
inductive SpelledKey : List Char → String → Prop where
  | key {a b : List Char} {quote : Char} {s : String} : Blanks a → IsQuote quote → Blanks b →
      SpelledKey (a ++ spellString quote s.toList ++ b) s

mutual

/-- The texts that spell a value. The members of an object may be written in any order. -/
inductive Spelling : List Char → Json → Prop where
  | none : Spelling "None".toList .null
  | wordTrue : Spelling "True".toList (.bool true)
  | wordFalse : Spelling "False".toList (.bool false)
  | int {n : Int} : Json.Number.fits n = true → Spelling (Decimal.ofInt n) (Json.ofInt n)
  | string {quote : Char} {s : String} : IsQuote quote →
      Spelling (spellString quote s.toList) (.string s)
  | emptyArray {opening closing : Char} {b : List Char} : Brackets opening closing → Blanks b →
      Spelling (opening :: (b ++ [closing])) (.array [])
  | array {opening closing : Char} {s e : List Char} {vs : List Json} :
      Brackets opening closing → SpelledItems s vs → Ending e →
      Spelling (opening :: (s ++ e ++ [closing])) (.array vs)
  | emptyObject {b : List Char} : Blanks b → Spelling ('\x7b' :: (b ++ ['\x7d'])) (.object [])
  | object {s e : List Char} {ps members : List (String × Json)} : SpelledMembers s ps →
      ps.Perm members → Entries.Sorted members → Ending e →
      Spelling ('\x7b' :: (s ++ e ++ ['\x7d'])) (.object members)
  | padded {a s b : List Char} {v : Json} : Blanks a → Spelling s v → Blanks b →
      Spelling (a ++ s ++ b) v

/-- The texts that spell items, with commas between them. -/
inductive SpelledItems : List Char → List Json → Prop where
  | one {s : List Char} {v : Json} : Spelling s v → SpelledItems s [v]
  | more {s t : List Char} {v : Json} {vs : List Json} : Spelling s v → SpelledItems t vs →
      SpelledItems (s ++ ',' :: t) (v :: vs)

/-- The texts that spell members, each a key, a colon and a value, with commas between them. -/
inductive SpelledMembers : List Char → List (String × Json) → Prop where
  | one {k s : List Char} {key : String} {v : Json} : SpelledKey k key → Spelling s v →
      SpelledMembers (k ++ ':' :: s) [(key, v)]
  | more {k s t : List Char} {key : String} {v : Json} {ps : List (String × Json)} :
      SpelledKey k key → Spelling s v → SpelledMembers t ps →
      SpelledMembers (k ++ ':' :: s ++ ',' :: t) ((key, v) :: ps)

end

/-! ## Values that have a spelling -/

mutual

/-- Values whose numbers are integers that fit 64 bits, with objects in order, at every depth. -/
def Spellable : Json → Prop
  | .number (.int n) => Json.Number.fits n = true
  | .number (.float _) => False
  | .array items => SpellableItems items
  | .object members => Entries.Sorted members ∧ SpellableMembers members
  | _ => True

/-- Every item is spellable. -/
def SpellableItems : List Json → Prop
  | [] => True
  | item :: items => Spellable item ∧ SpellableItems items

/-- Every member's value is spellable. -/
def SpellableMembers : List (String × Json) → Prop
  | [] => True
  | (_, value) :: members => Spellable value ∧ SpellableMembers members

end

theorem spellableMembers_perm {ps qs : List (String × Json)} (h : ps.Perm qs) :
    SpellableMembers ps ↔ SpellableMembers qs := by
  induction h with
  | nil => exact Iff.rfl
  | cons p _ ih =>
      rw [SpellableMembers, SpellableMembers, ih]
  | swap p q ps =>
      rw [SpellableMembers, SpellableMembers, SpellableMembers, SpellableMembers]
      exact and_left_comm
  | trans _ _ ih ih' => exact ih.trans ih'

mutual

theorem Spelling.spellable {s : List Char} {v : Json} : Spelling s v → Spellable v
  | .none | .wordTrue | .wordFalse | .string _ | .emptyArray _ _ => trivial
  | .int hfits => hfits
  | .array _ hitems _ => hitems.spellable
  | .emptyObject _ => ⟨.nil, trivial⟩
  | .object hmembers hperm hsorted _ =>
      ⟨hsorted, (spellableMembers_perm hperm).1 hmembers.spellable⟩
  | .padded _ hs _ => hs.spellable

theorem SpelledItems.spellable {s : List Char} {vs : List Json} :
    SpelledItems s vs → SpellableItems vs
  | .one hs => ⟨hs.spellable, trivial⟩
  | .more hs ht => ⟨hs.spellable, ht.spellable⟩

theorem SpelledMembers.spellable {s : List Char} {ps : List (String × Json)} :
    SpelledMembers s ps → SpellableMembers ps
  | .one _ hs => ⟨hs.spellable, trivial⟩
  | .more _ hs ht => ⟨hs.spellable, ht.spellable⟩

end

theorem exists_spelledKey (key : String) : ∃ k, SpelledKey k key :=
  ⟨_, .key (a := []) (b := []) rfl (Or.inl rfl) rfl⟩

mutual

theorem exists_spelling : ∀ v : Json, Spellable v → ∃ s, Spelling s v
  | .null, _ => ⟨_, .none⟩
  | .bool true, _ => ⟨_, .wordTrue⟩
  | .bool false, _ => ⟨_, .wordFalse⟩
  | .number (.int _), h => ⟨_, .int h⟩
  | .string _, _ => ⟨_, .string (Or.inl rfl)⟩
  | .array [], _ => ⟨_, .emptyArray (b := []) .square rfl⟩
  | .array (v :: vs), h => by
      obtain ⟨s, hs⟩ := exists_spelledItems (v :: vs) (List.cons_ne_nil _ _) h
      exact ⟨_, .array .square hs .nothing⟩
  | .object [], _ => ⟨_, .emptyObject (b := []) rfl⟩
  | .object (p :: members), h => by
      obtain ⟨s, hs⟩ := exists_spelledMembers (p :: members) (List.cons_ne_nil _ _) h.2
      exact ⟨_, .object hs (.refl _) h.1 .nothing⟩

theorem exists_spelledItems : ∀ vs : List Json, vs ≠ [] → SpellableItems vs →
    ∃ s, SpelledItems s vs
  | [], hne, _ => absurd rfl hne
  | [v], _, h => by
      obtain ⟨s, hs⟩ := exists_spelling v h.1
      exact ⟨s, .one hs⟩
  | v :: w :: vs, _, h => by
      obtain ⟨s, hs⟩ := exists_spelling v h.1
      obtain ⟨t, ht⟩ := exists_spelledItems (w :: vs) (List.cons_ne_nil _ _) h.2
      exact ⟨_, .more hs ht⟩

theorem exists_spelledMembers : ∀ ps : List (String × Json), ps ≠ [] → SpellableMembers ps →
    ∃ s, SpelledMembers s ps
  | [], hne, _ => absurd rfl hne
  | [(key, v)], _, h => by
      obtain ⟨k, hkey⟩ := exists_spelledKey key
      obtain ⟨s, hs⟩ := exists_spelling v h.1
      exact ⟨_, .one hkey hs⟩
  | (key, v) :: p :: ps, _, h => by
      obtain ⟨k, hkey⟩ := exists_spelledKey key
      obtain ⟨s, hs⟩ := exists_spelling v h.1
      obtain ⟨t, ht⟩ := exists_spelledMembers (p :: ps) (List.cons_ne_nil _ _) h.2
      exact ⟨_, .more hkey hs ht⟩

end

/-- **A value has a spelling** exactly if its numbers are integers that fit. -/
theorem exists_spelling_iff (v : Json) : (∃ s, Spelling s v) ↔ Spellable v :=
  ⟨fun ⟨_, h⟩ => h.spellable, exists_spelling v⟩

/-! ## Spellings are plain -/

theorem plain_of_forall {s : List Char} (h : ∀ c ∈ s, c ≠ '\\') : Plain s = true := by
  have happend := plain_append_of_forall h []
  rw [List.append_nil] at happend
  rw [happend, Plain]

theorem Blanks.plain {b : List Char} (h : Blanks b) : Plain b = true := by
  refine plain_of_forall fun c hc => ?_
  rintro rfl
  exact absurd (List.all_eq_true.1 h _ hc) (by decide)

theorem Ending.plain {e : List Char} (h : Ending e) : Plain e = true := by
  cases h with
  | nothing => rw [Plain]
  | comma hb => rw [plain_cons (by decide), hb.plain]

theorem IsQuote.ne_backslash {quote : Char} (h : IsQuote quote) : quote ≠ '\\' := by
  rintro rfl
  rcases h with h | h
  · exact absurd h (by decide)
  · exact absurd h (by decide)

theorem IsQuote.isPlainEscape {quote : Char} (h : IsQuote quote) : isPlainEscape quote = true := by
  rcases h with rfl | rfl <;> rfl

theorem plain_spellChars {quote : Char} (h : IsQuote quote) (s : List Char) {t : List Char}
    (ht : Plain t = true) : Plain (s.flatMap (spellChar quote) ++ t) = true := by
  induction s with
  | nil => exact ht
  | cons c s ih =>
      rw [List.flatMap_cons, List.append_assoc]
      by_cases hc : c = '\\' ∨ c = quote
      · have hescape : Literal.isPlainEscape c = true := by
          rcases hc with rfl | rfl
          · rfl
          · exact h.isPlainEscape
        -- what has a backslash in front of it may have one
        rw [spellChar, if_pos hc, List.cons_append, List.singleton_append, plain_escape, hescape,
          ih]
        rfl
      · rw [spellChar, if_neg hc, List.singleton_append, plain_cons (fun h => hc (Or.inl h)), ih]

theorem plain_spellString {quote : Char} (h : IsQuote quote) (s : List Char) :
    Plain (spellString quote s) = true := by
  have hquote : Plain [quote] = true := by
    rw [plain_cons h.ne_backslash, Plain]
  rw [spellString, plain_cons h.ne_backslash, plain_spellChars h s hquote]

theorem SpelledKey.plain {k : List Char} {key : String} (h : SpelledKey k key) :
    Plain k = true := by
  cases h with
  | key ha hquote hb =>
      exact plain_append (plain_append ha.plain (plain_spellString hquote _)) hb.plain

/-- Between two brackets plain texts stay plain. -/
theorem plain_enclosed {opening closing : Char} {s : List Char} (hopening : opening ≠ '\\')
    (hclosing : closing ≠ '\\') (hs : Plain s = true) :
    Plain (opening :: (s ++ [closing])) = true := by
  have hclose : Plain [closing] = true := by
    rw [plain_cons hclosing, Plain]
  rw [plain_cons hopening, plain_append hs hclose]

theorem plain_separated {c : Char} {s t : List Char} (hc : c ≠ '\\') (hs : Plain s = true)
    (ht : Plain t = true) : Plain (s ++ c :: t) = true :=
  plain_append hs (by rw [plain_cons hc, ht])

theorem Brackets.ne_backslash {opening closing : Char} (h : Brackets opening closing) :
    opening ≠ '\\' ∧ closing ≠ '\\' := by
  cases h <;> decide

theorem plain_ofInt {n : Int} (h : Json.Number.fits n = true) :
    Plain (Decimal.ofInt n) = true :=
  plain_of_forall (ne_backslash_of_number (Json.ofText?_ofInt h))

mutual

/-- **A backslash in a spelling** has a quote or another backslash after it. -/
theorem Spelling.plain {s : List Char} {v : Json} : Spelling s v → Plain s = true
  | .none | .wordTrue | .wordFalse => rfl
  | .int hfits => plain_ofInt hfits
  | .string hquote => plain_spellString hquote _
  | .emptyArray hbrackets hb =>
      plain_enclosed hbrackets.ne_backslash.1 hbrackets.ne_backslash.2 hb.plain
  | .array hbrackets hitems he =>
      plain_enclosed hbrackets.ne_backslash.1 hbrackets.ne_backslash.2
        (plain_append hitems.plain he.plain)
  | .emptyObject hb => plain_enclosed (by decide) (by decide) hb.plain
  | .object hmembers _ _ he =>
      plain_enclosed (by decide) (by decide) (plain_append hmembers.plain he.plain)
  | .padded ha hs hb => plain_append (plain_append ha.plain hs.plain) hb.plain

theorem SpelledItems.plain {s : List Char} {vs : List Json} :
    SpelledItems s vs → Plain s = true
  | .one hs => hs.plain
  | .more hs ht => plain_separated (by decide) hs.plain ht.plain

theorem SpelledMembers.plain {s : List Char} {ps : List (String × Json)} :
    SpelledMembers s ps → Plain s = true
  | .one hkey hs => plain_separated (by decide) hkey.plain hs.plain
  | .more hkey hs ht =>
      plain_separated (by decide) (plain_separated (by decide) hkey.plain hs.plain) ht.plain

end

/-! ## The ends of spellings -/

/-- A text that does not hold any blank. -/
theorem blankEnds_of_forall {s : List Char} (h : ∀ c ∈ s, Text.isBlank c = false) :
    BlankEnds s :=
  blankEnds_of_trim (trim_eq_self (fun c hc => h c (List.mem_of_mem_head? hc))
    fun c hc => h c (List.mem_of_mem_getLast? hc))

theorem blankEnds_enclosed {opening closing : Char} (hopening : Text.isBlank opening = false)
    (hclosing : Text.isBlank closing = false) (s : List Char) :
    BlankEnds (opening :: (s ++ [closing])) :=
  blankEnds_of_trim (trim_of_ends hopening hclosing s)

theorem IsQuote.isBlank {quote : Char} (h : IsQuote quote) : Text.isBlank quote = false := by
  rcases h with rfl | rfl <;> rfl

theorem Brackets.isBlank {opening closing : Char} (h : Brackets opening closing) :
    Text.isBlank opening = false ∧ Text.isBlank closing = false := by
  cases h <;> decide

/-- **The blanks around a spelling** are those of JSON. -/
theorem Spelling.blankEnds {s : List Char} {v : Json} : Spelling s v → BlankEnds s
  | .none | .wordTrue | .wordFalse => blankEnds_of_trim rfl
  | .int hfits => by
      obtain ⟨sign, whole, fraction, exponent, htext, hparts⟩ :=
        Json.Number.parts_of_ofText? (Json.ofText?_ofInt hfits)
      rw [htext]
      exact blankEnds_of_forall fun c hc =>
        isBlank_of_isNumberChar (List.all_eq_true.1 hparts.all_isNumberChar c hc)
  | .string hquote => blankEnds_enclosed hquote.isBlank hquote.isBlank _
  | .emptyArray hbrackets _ => blankEnds_enclosed hbrackets.isBlank.1 hbrackets.isBlank.2 _
  | .array hbrackets _ _ => blankEnds_enclosed hbrackets.isBlank.1 hbrackets.isBlank.2 _
  | .emptyObject _ => blankEnds_enclosed (by decide) (by decide) _
  | .object _ _ _ _ => blankEnds_enclosed (by decide) (by decide) _
  | .padded ha hs hb => blankEnds_padded ha hs.blankEnds hb

end Switchboard.Literal
