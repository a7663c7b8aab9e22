import Switchboard.Proofs.Encoding

/-!
# Encodings differ in layout only

What is printed of a value is one text, but for the blanks in it. A blank may also stand inside of a
string literal, and so may commas, colons, brackets and quotes, so a text is read with a `Place`: it
is known of each character whether it belongs to a literal. `rewriteFrom` rewrites the characters
that do not. Blanks are dropped in this way (`withoutBlanks`) and spaces are put in (`spacedOut`).

The text of a token is rewritten by itself (`rewriteFrom_text`), which is where literals have to be
followed to their ends; numbers take part only in that they have no quotes, blanks, commas or colons
in their texts (`unbroken_number`). All else is about tokens: printing without blanks is their texts
in a row, and printing on one line their texts with a space behind each comma and colon.
-/

namespace Switchboard

/-! ## The characters of numbers -/

namespace Binary64

/-- What holds of the digits, of zeros and of the point holds of a text that is made of these. -/
theorem Layout.forall_positionalText {p : Char → Prop} (hzero : p '0') (hpoint : p '.')
    (layout : Layout) {digits : List Char} (hdigits : ∀ c ∈ digits, p c) (k : Int) :
    ∀ c ∈ layout.positionalText digits k, p c := by
  have hzeros : ∀ n, ∀ c ∈ List.replicate n '0', p c := by
    intro n c hc
    rwa [List.eq_of_mem_replicate hc]
  intro c hc
  unfold positionalText at hc
  split at hc
  · rcases List.mem_append.1 hc with hc | hc
    · rcases List.mem_append.1 hc with hc | hc
      · exact hdigits c hc
      · exact hzeros _ c hc
    · split at hc
      · simp only [List.mem_cons, List.not_mem_nil, or_false] at hc
        rcases hc with rfl | rfl
        · exact hpoint
        · exact hzero
      · cases hc
  · dsimp only at hc
    split at hc
    · rcases List.mem_append.1 hc with hc | hc
      · exact hdigits c (List.mem_of_mem_take hc)
      · rcases List.mem_cons.1 hc with rfl | hc
        · exact hpoint
        · exact hdigits c (List.mem_of_mem_drop hc)
    · rcases List.mem_append.1 hc with hc | hc
      · rcases List.mem_append.1 hc with hc | hc
        · simp only [List.mem_cons, List.not_mem_nil, or_false] at hc
          rcases hc with rfl | rfl
          · exact hzero
          · exact hpoint
        · exact hzeros _ c hc
      · exact hdigits c hc

/-- The same with an exponent. -/
theorem forall_scientificText {p : Char → Prop} (hpoint : p '.') (he : p 'e') (hplus : p '+')
    (hminus : p '-') (hnat : ∀ n, ∀ c ∈ Decimal.ofNat n, p c) {digits : List Char}
    (hdigits : ∀ c ∈ digits, p c) (magnitude : Int) :
    ∀ c ∈ scientificText digits magnitude, p c := by
  intro c hc
  unfold scientificText at hc
  dsimp only at hc
  rcases List.mem_append.1 hc with hc | hc
  · rcases List.mem_append.1 hc with hc | hc
    · -- the point stands behind the first of two digits or more
      rcases digits with _ | ⟨first, _ | ⟨second, rest⟩⟩
      · exact hdigits c hc
      · exact hdigits c hc
      · rcases List.mem_cons.1 hc with rfl | hc
        · exact hdigits _ List.mem_cons_self
        · rcases List.mem_cons.1 hc with rfl | hc
          · exact hpoint
          · exact hdigits c (List.mem_cons_of_mem first hc)
    · simp only [List.mem_cons, List.not_mem_nil, or_false] at hc
      rcases hc with rfl | rfl
      · exact he
      · split
        · exact hminus
        · exact hplus
  · exact hnat _ c hc

end Binary64

namespace Json

open Lexer (isBreak)

/-- A text without a character that ends numbers and words. -/
def Unbroken (s : List Char) : Prop := ∀ c ∈ s, isBreak c = false

theorem isBreak_of_isDigit {c : Char} (h : c.isDigit = true) : isBreak c = false := by
  simp [isBreak, Char.isAlphanum, h]

theorem unbroken_ofNat (n : Nat) : Unbroken (Decimal.ofNat n) :=
  fun c hc => isBreak_of_isDigit (List.all_eq_true.1 (isDigit_ofNat n) c hc)

theorem unbroken_layout (layout : Binary64.Layout) (hnan : Unbroken layout.nan.toList)
    (hinfinity : Unbroken layout.infinity.toList) (x : Binary64) : Unbroken (layout.text x) := by
  have hsign : ∀ negative : Bool, Unbroken (if negative then ['-'] else []) := by
    intro negative
    cases negative <;> simp [Unbroken, isBreak]
  cases x with
  | nan => exact hnan
  | infinite negative => exact List.forall_mem_append.2 ⟨hsign negative, hinfinity⟩
  | finite negative mantissa exponent =>
    refine List.forall_mem_append.2 ⟨hsign negative, ?_⟩
    dsimp only
    split
    · exact layout.forall_positionalText (by decide) (by decide) (by simp [isBreak]) 0
    · split
      · exact layout.forall_positionalText (by decide) (by decide) (unbroken_ofNat _) _
      · exact Binary64.forall_scientificText (by decide) (by decide) (by decide) (by decide)
          unbroken_ofNat (unbroken_ofNat _) _

theorem unbroken_number (n : Number) : Unbroken n.text := by
  have hnull : Unbroken "null".toList := by simp [Unbroken, isBreak]
  cases n with
  | int n =>
    cases n with
    | ofNat n => exact unbroken_ofNat n
    | negSucc n => exact List.forall_mem_cons.2 ⟨by decide, unbroken_ofNat (n + 1)⟩
  | float x =>
    unfold Number.text
    dsimp only
    split
    · exact unbroken_layout _ hnull hnull x
    · exact hnull

/-! ## Inside and outside of string literals -/

/-- Where a character of a text stands. -/
inductive Place where
  /-- Outside of string literals, or where one begins. -/
  | outside
  /-- In a string literal, or where it ends. -/
  | inside
  /-- In a string literal, behind a backslash. -/
  | escaped
  deriving DecidableEq, Repr

/-- Where the character after another one stands. -/
def Place.after (c : Char) : Place → Place
  | .outside => if c = '"' then .inside else .outside
  | .inside => if c = '"' then .outside else if c = '\\' then .escaped else .inside
  | .escaped => .inside

/-- A text with the characters outside of its string literals rewritten; the quotes around a literal
belong to it. -/
def rewriteFrom (f : Char → List Char) : Place → List Char → List Char
  | _, [] => []
  | place, c :: s =>
    (if place = .outside ∧ c ≠ '"' then f c else [c]) ++ rewriteFrom f (place.after c) s

/-- A text without the blanks outside of its string literals. -/
def withoutBlanks (s : List Char) : List Char :=
  rewriteFrom (fun c => if Text.isBlank c then [] else [c]) .outside s

/-- A text with a space put behind every comma and every colon outside of its string literals. -/
def spacedOut (s : List Char) : List Char :=
  rewriteFrom (fun c => if c = ',' ∨ c = ':' then [c, ' '] else [c]) .outside s

section
variable (f : Char → List Char)

theorem rewriteFrom_unquoted {w : List Char} (hw : ∀ c ∈ w, c ≠ '"') (s : List Char) :
    rewriteFrom f .outside (w ++ s) = w.flatMap f ++ rewriteFrom f .outside s := by
  induction w with
  | nil => rfl
  | cons c w ih =>
    rw [List.forall_mem_cons] at hw
    have hafter : Place.outside.after c = .outside := if_neg hw.1
    rw [List.cons_append, rewriteFrom, if_pos ⟨rfl, hw.1⟩, hafter, ih hw.2, List.flatMap_cons,
      List.append_assoc]

theorem rewriteFrom_cons {place : Place} (h : place ≠ .outside) (c : Char) (s : List Char) :
    rewriteFrom f place (c :: s) = c :: rewriteFrom f (place.after c) s := by
  rw [rewriteFrom, if_neg fun hout => h hout.1]
  rfl

theorem rewriteFrom_inside {c : Char} (hquote : c ≠ '"') (hbackslash : c ≠ '\\') (s : List Char) :
    rewriteFrom f .inside (c :: s) = c :: rewriteFrom f .inside s := by
  have hafter : Place.inside.after c = .inside := by
    show (if c = '"' then Place.outside else if c = '\\' then .escaped else .inside) = .inside
    rw [if_neg hquote, if_neg hbackslash]
  rw [rewriteFrom_cons f (by decide), hafter]

theorem rewriteFrom_escape (e : Char) (s : List Char) :
    rewriteFrom f .inside ('\\' :: e :: s) = '\\' :: e :: rewriteFrom f .inside s := by
  rw [rewriteFrom_cons f (by decide), rewriteFrom_cons f (by decide)]
  rfl

/-- An escaped character neither ends the literal nor changes. -/
theorem rewriteFrom_escapeChar (c : Char) (s : List Char) :
    rewriteFrom f .inside (escapeChar c ++ s) = escapeChar c ++ rewriteFrom f .inside s := by
  rcases escapeChar_cases c with ⟨e, hc, -, -⟩ | ⟨hcontrol, hc⟩ | ⟨hquote, hbackslash, -, hc⟩
  · rw [hc]
    exact rewriteFrom_escape f e s
  · have hdigit : ∀ k < 16, Nat.digitChar k ≠ '"' ∧ Nat.digitChar k ≠ '\\' := by decide
    obtain ⟨hhigh, hhigh'⟩ := hdigit (c.toNat / 16) (by omega)
    obtain ⟨hlow, hlow'⟩ := hdigit (c.toNat % 16) (by omega)
    rw [hc]
    simp only [List.cons_append, List.nil_append]
    rw [rewriteFrom_escape, rewriteFrom_inside f (by decide) (by decide),
      rewriteFrom_inside f (by decide) (by decide), rewriteFrom_inside f hhigh hhigh',
      rewriteFrom_inside f hlow hlow']
  · rw [hc]
    exact rewriteFrom_inside f hquote hbackslash s

/-- **A string literal stays as it is**, whatever its content is. -/
theorem rewriteFrom_quote (content s : List Char) :
    rewriteFrom f .outside (quote content ++ s) = quote content ++ rewriteFrom f .outside s := by
  have hcontent : ∀ t, rewriteFrom f .inside (content.flatMap escapeChar ++ t)
      = content.flatMap escapeChar ++ rewriteFrom f .inside t := by
    intro t
    induction content with
    | nil => rfl
    | cons c content ih =>
      rw [List.flatMap_cons, List.append_assoc, rewriteFrom_escapeChar, ih, List.append_assoc]
  have hopen : ∀ t, rewriteFrom f .outside ('"' :: t) = '"' :: rewriteFrom f .inside t :=
    fun t => rfl
  have hclose : ∀ t, rewriteFrom f .inside ('"' :: t) = '"' :: rewriteFrom f .outside t :=
    fun t => rfl
  unfold quote
  simp only [List.cons_append, List.append_assoc, List.nil_append]
  rw [hopen, hcontent, hclose]

end

/-! ## Tokens rewritten -/

/-- The text of a token, rewritten unless it is a string literal. -/
def Token.rewritten (f : Char → List Char) : Token → List Char
  | .string s => quote s.toList
  | t => t.text.flatMap f

theorem Token.rewritten_of_unbroken {f : Char → List Char} (hf : ∀ c, isBreak c = false → f c = [c])
    {w : List Char} (hw : Unbroken w) : w.flatMap f = w := by
  induction w with
  | nil => rfl
  | cons c w ih =>
    obtain ⟨hc, hw⟩ := List.forall_mem_cons.1 hw
    rw [List.flatMap_cons, hf c hc, ih hw, List.singleton_append]

theorem Token.unbroken_bool (b : Bool) : Unbroken (Token.bool b).text := by
  cases b <;> simp [Unbroken, Token.text, isBreak]

theorem Token.unbroken_null : Unbroken Token.null.text := by
  simp [Unbroken, Token.text, isBreak]

/-- **Tokens are rewritten one by one.** -/
theorem rewriteFrom_text (f : Char → List Char) (t : Token) (s : List Char) :
    rewriteFrom f .outside (t.text ++ s) = t.rewritten f ++ rewriteFrom f .outside s := by
  have hunbroken {w : List Char} (hw : Unbroken w) : ∀ c ∈ w, c ≠ '"' := by
    rintro c hc rfl
    exact absurd (hw _ hc) (by decide)
  cases t with
  | string text => exact rewriteFrom_quote f text.toList s
  | null => exact rewriteFrom_unquoted f (hunbroken Token.unbroken_null) s
  | bool b => exact rewriteFrom_unquoted f (hunbroken (Token.unbroken_bool b)) s
  | number n => exact rewriteFrom_unquoted f (hunbroken (unbroken_number n)) s
  | openArray | closeArray | openObject | closeObject | comma | colon =>
    exact rewriteFrom_unquoted f (by simp [Token.text]) s

theorem rewriteFrom_tokens (f : Char → List Char) (T : List Token) :
    rewriteFrom f .outside (T.flatMap Token.text) = T.flatMap (Token.rewritten f) := by
  induction T with
  | nil => rfl
  | cons t T ih => rw [List.flatMap_cons, rewriteFrom_text, ih, List.flatMap_cons]

/-- The text of a token with a space behind it if it is a comma or a colon. -/
def Token.spacedText : Token → List Char
  | .comma => [',', ' ']
  | .colon => [':', ' ']
  | t => t.text

theorem Token.rewritten_blanks (t : Token) :
    t.rewritten (fun c => if Text.isBlank c then [] else [c]) = t.text := by
  have hf : ∀ c, isBreak c = false → (if Text.isBlank c then [] else [c]) = [c] := by
    intro c hc
    rw [if_neg]
    intro hblank
    exact absurd (Lexer.isBreak_of_isQuiet (Lexer.isQuiet_of_textIsBlank hblank)) (by simp [hc])
  cases t with
  | string s => rfl
  | null => exact rewritten_of_unbroken hf unbroken_null
  | bool b => exact rewritten_of_unbroken hf (unbroken_bool b)
  | number n => exact rewritten_of_unbroken hf (unbroken_number n)
  | openArray | closeArray | openObject | closeObject | comma | colon => rfl

theorem Token.rewritten_spaces (t : Token) :
    t.rewritten (fun c => if c = ',' ∨ c = ':' then [c, ' '] else [c]) = t.spacedText := by
  have hf : ∀ c, isBreak c = false → (if c = ',' ∨ c = ':' then [c, ' '] else [c]) = [c] := by
    intro c hc
    rw [if_neg]
    rintro (rfl | rfl) <;> exact absurd hc (by decide)
  cases t with
  | string s => rfl
  | null => exact rewritten_of_unbroken hf unbroken_null
  | bool b => exact rewritten_of_unbroken hf (unbroken_bool b)
  | number n => exact rewritten_of_unbroken hf (unbroken_number n)
  | openArray | closeArray | openObject | closeObject | comma | colon => rfl

/-! ## Printed values -/

/-- **Without blanks a text is the texts of its tokens**, whatever blanks were between them. -/
theorem LaidOut.withoutBlanks_eq {T : List Token} {s : List Char}
    (h : LaidOut (fun c => Text.isBlank c = true) T s) :
    withoutBlanks s = T.flatMap Token.text := by
  induction h with
  | nil => rfl
  | @gap c T s hc _ ih =>
    have hquote : c ≠ '"' := Lexer.ne_of_textIsBlank hc (by decide)
    have hdrop := rewriteFrom_unquoted (fun c => if Text.isBlank c then [] else [c])
      (List.forall_mem_singleton.2 hquote) s
    rw [← ih]
    simpa [withoutBlanks, hc] using hdrop
  | token t _ ih =>
    rw [List.flatMap_cons, ← ih, withoutBlanks, rewriteFrom_text, Token.rewritten_blanks]
    rfl

/-- What is laid out with gaps of a kind is laid out with gaps of a wider kind. -/
theorem LaidOut.mono {isGap isGap' : Char → Prop} (h : ∀ c, isGap c → isGap' c) {T : List Token}
    {s : List Char} (hs : LaidOut isGap T s) : LaidOut isGap' T s := by
  induction hs with
  | nil => exact .nil
  | gap hc _ ih => exact .gap (h _ hc) ih
  | token t _ ih => exact .token t ih

theorem LaidOut.eq_flatMap {T : List Token} {s : List Char} (h : LaidOut (fun _ => False) T s) :
    s = T.flatMap Token.text := by
  induction h with
  | nil => rfl
  | gap hc => exact hc.elim
  | token t _ ih => rw [List.flatMap_cons, ← ih]

theorem compact_eq (v : Json) : v.compact = v.tokens.flatMap Token.text :=
  (laidOut_print_nil Style.uses_compact 0 v).eq_flatMap

section
variable (depth : Nat)

@[simp] theorem Style.spaced_afterOpen : Style.spaced.afterOpen depth = [] := rfl

@[simp] theorem Style.spaced_afterComma : Style.spaced.afterComma depth = [' '] := rfl

@[simp] theorem Style.spaced_beforeClose : Style.spaced.beforeClose depth = [] := rfl

@[simp] theorem Style.spaced_afterColon : Style.spaced.afterColon = [' '] := rfl

end

mutual

/-- **On one line** a space stands behind each comma and each colon, and nowhere else. -/
theorem print_spaced (depth : Nat) :
    ∀ v : Json, print .spaced depth v = v.tokens.flatMap Token.spacedText
  | .null | .bool _ | .number _ | .string _ => (List.append_nil _).symm
  | .array [] | .object [] => rfl
  | .array (item :: items) => by
    have hitem := print_spaced (depth + 1) item
    have hitems := printItems_spaced (depth + 1) items
    simp [print, tokens, tokensItems_cons, hitem, hitems, Token.spacedText, Token.text]
  | .object ((key, value) :: members) => by
    have hvalue := print_spaced (depth + 1) value
    have hmembers := printMembers_spaced (depth + 1) members
    have hmember : tokensMember (key, value) = .string key :: .colon :: value.tokens := rfl
    simp [print, tokens, tokensMembers_cons, hmember, hvalue, hmembers, Token.spacedText,
      Token.text]

theorem printItems_spaced (depth : Nat) : ∀ items : List Json, printItems .spaced depth items
      = (items.flatMap fun item => .comma :: item.tokens).flatMap Token.spacedText
  | [] => rfl
  | item :: items => by
    have hitem := print_spaced depth item
    have hitems := printItems_spaced depth items
    simp [printItems, hitem, hitems, Token.spacedText]

theorem printMembers_spaced (depth : Nat) :
    ∀ members : List (String × Json), printMembers .spaced depth members
      = (members.flatMap fun e => .comma :: tokensMember e).flatMap Token.spacedText
  | [] => rfl
  | (key, value) :: members => by
    have hvalue := print_spaced depth value
    have hmembers := printMembers_spaced depth members
    have hmember : tokensMember (key, value) = .string key :: .colon :: value.tokens := rfl
    simp [printMembers, hmember, hvalue, hmembers, Token.spacedText, Token.text]

end

/-! ## The order of keys -/

/-- Whether each key among tokens is greater than the one before it in the same object. A key is the
text in front of a colon; `text` is the one that was read last, and `last` holds what the last key
of each open object was, the innermost first. -/
def keysAscendFrom : String → List (Option String) → List Token → Bool
  | _, _, [] => true
  | _, last, .string s :: T => keysAscendFrom s last T
  | text, last, .openObject :: T => keysAscendFrom text (none :: last) T
  | text, _ :: last, .closeObject :: T => keysAscendFrom text last T
  | text, key :: last, .colon :: T =>
    key.all (· < text) && keysAscendFrom text (some text :: last) T
  | text, last, _ :: T => keysAscendFrom text last T

/-- Whether the keys of every object stand in strictly increasing order. -/
def keysAscend (T : List Token) : Bool := keysAscendFrom "" [] T

/-- A key that is greater than the one before it, if there is one, takes its place. -/
theorem keysAscendFrom_key {key : Option String} {name : String} (hkey : ∀ k ∈ key, k < name)
    {last : List (Option String)} {T : List Token}
    (hrest : keysAscendFrom name (some name :: last) T = true) (text : String) :
    keysAscendFrom text (key :: last) (.string name :: .colon :: T) = true := by
  have hless : key.all (· < name) = true := by
    cases key with
    | none => rfl
    | some k => exact decide_eq_true (hkey k rfl)
  have hstep : keysAscendFrom text (key :: last) (.string name :: .colon :: T)
      = (key.all (· < name) && keysAscendFrom name (some name :: last) T) := rfl
  rw [hstep, hless, hrest, Bool.and_true]

mutual

/-- Behind a value in order the keys are compared as if it were not there. -/
theorem keysAscendFrom_tokens : ∀ v : Json, v.WellFormed → ∀ {last : List (Option String)}
    {T : List Token}, (∀ text, keysAscendFrom text last T = true) →
    ∀ text, keysAscendFrom text last (v.tokens ++ T) = true
  | .null, _, _, _, hT | .bool _, _, _, _, hT | .number _, _, _, _, hT => hT
  | .string s, _, _, _, hT => fun _ => hT s
  | .array items, hv, _, T, hT => fun text => by
    have hitems := keysAscendFrom_items items hv (T := .closeArray :: T) hT text
    simpa [tokens, keysAscendFrom] using hitems
  | .object members, hv, last, T, hT => fun text => by
    have hmembers := keysAscendFrom_members members hv.1 hv.2 none
      (by simp) (T := .closeObject :: T) (fun _ => hT) text
    simpa [tokens, keysAscendFrom] using hmembers

theorem keysAscendFrom_items : ∀ items : List Json, WellFormedItems items →
    ∀ {last : List (Option String)} {T : List Token},
    (∀ text, keysAscendFrom text last T = true) →
    ∀ text, keysAscendFrom text last (tokensItems items ++ T) = true
  | [], _, _, _, hT => hT
  | [item], hitems, _, _, hT => keysAscendFrom_tokens item hitems.1 hT
  | item :: next :: items, hitems, last, T, hT => fun text => by
    have hrest := keysAscendFrom_items (next :: items) hitems.2 hT
    have hitem := keysAscendFrom_tokens item hitems.1 (T := .comma :: (tokensItems (next :: items)
      ++ T)) hrest text
    simpa [tokensItems] using hitem

/-- The members of an object, behind one with this key or at its beginning. -/
theorem keysAscendFrom_members : ∀ members : List (String × Json), Entries.Sorted members →
    WellFormedMembers members → ∀ key : Option String, (∀ k ∈ key, ∀ e ∈ members, k < e.1) →
    ∀ {last : List (Option String)} {T : List Token},
    (∀ key text, keysAscendFrom text (key :: last) T = true) →
    ∀ text, keysAscendFrom text (key :: last) (tokensMembers members ++ T) = true
  | [], _, _, key, _, _, _, hT => hT key
  | [(name, value)], _, hmembers, key, hkey, last, T, hT => fun text => by
    have hvalue := keysAscendFrom_tokens value hmembers.1 (hT (some name)) name
    exact keysAscendFrom_key (fun k hk => hkey k hk _ List.mem_cons_self) hvalue text
  | (name, value) :: next :: members, hsorted, hmembers, key, hkey, last, T, hT => fun text => by
    obtain ⟨hname, hsorted⟩ := List.pairwise_cons.1 hsorted
    -- the keys behind this one are greater than it is, since the entries are in order
    have hrest := keysAscendFrom_members (next :: members) hsorted hmembers.2 (some name)
      (fun k hk => Option.some.inj hk ▸ hname) hT
    have hvalue := keysAscendFrom_tokens value hmembers.1
      (T := .comma :: tokensMembers (next :: members) ++ T) hrest name
    rw [← List.append_assoc] at hvalue
    exact keysAscendFrom_key (fun k hk => hkey k hk _ List.mem_cons_self) hvalue text

end

theorem keysAscend_tokens {v : Json} (hv : v.WellFormed) : keysAscend v.tokens = true := by
  have h : keysAscendFrom "" [] (v.tokens ++ []) = true :=
    keysAscendFrom_tokens v hv (fun _ => rfl) ""
  rwa [List.append_nil] at h

end Json

namespace Output

open Json

theorem laidOut_textBlank (pretty : Bool) (v : Json) :
    LaidOut (fun c => Text.isBlank c = true) v.tokens (encode pretty v).toList :=
  (laidOut_encode pretty v).mono fun _ => Lexer.textIsBlank_of_isBlank

theorem encode_false_eq (v : Json) :
    (encode false v).toList = v.tokens.flatMap Token.spacedText := by
  have hspaced : (encode false v).toList = print .spaced 0 v := String.toList_ofList
  rw [hspaced, print_spaced]

/--
**The encodings of a value are one text up to layout.**

Without the blanks outside of string literals both encodings are the text that has none, which is
also the text for humans of all that is no string. The encoding on one line is that text with one
space behind each comma and each colon outside of string literals, and these are the commas and
colons between the tokens of the value. All three texts are the tokens of the value with blanks at
most between them; and in these, as objects are in order, the keys of every object stand in strictly
increasing order.
-/
theorem encode_layout (v : Json) :
    let bare := v.compactString.toList
    ((∀ s, v ≠ .string s) → v.plainText.toList = bare)
      ∧ withoutBlanks bare = bare
      ∧ (∀ pretty, withoutBlanks (encode pretty v).toList = bare)
      ∧ (encode false v).toList = spacedOut bare
      ∧ (encode false v).toList = v.tokens.flatMap Token.spacedText
      ∧ (∀ text ∈ [bare, (encode false v).toList, (encode true v).toList],
          LaidOut (fun c => Text.isBlank c = true) v.tokens text)
      ∧ (v.WellFormed → keysAscend v.tokens = true) := by
  intro bare
  have hbare : bare = v.tokens.flatMap Token.text := by
    show v.compactString.toList = _
    rw [compactString, String.toList_ofList, compact_eq]
  have hlaid : LaidOut (fun c => Text.isBlank c = true) v.tokens bare := by
    show LaidOut _ _ v.compactString.toList
    rw [compactString, String.toList_ofList]
    exact laidOut_print_nil Style.uses_compact 0 v
  refine ⟨fun h => ?_, ?_, fun pretty => ?_, ?_, encode_false_eq v, ?_, keysAscend_tokens⟩
  · cases v with
    | string s => exact absurd rfl (h s)
    | null | bool | number | array | object => rfl
  · rw [hlaid.withoutBlanks_eq, hbare]
  · rw [(laidOut_textBlank pretty v).withoutBlanks_eq, hbare]
  · rw [encode_false_eq, hbare, spacedOut, rewriteFrom_tokens]
    exact List.flatMap_congr fun t _ => (Token.rewritten_spaces t).symm
  · intro text htext
    simp only [List.mem_cons, List.not_mem_nil, or_false] at htext
    rcases htext with rfl | rfl | rfl
    · exact hlaid
    · exact laidOut_textBlank false v
    · exact laidOut_textBlank true v

/-- A value with all that could be taken for layout in its keys and strings. -/
theorem encode_layout_marks :
    let v : Json := .object [(" , \\", .array [.string "\\", .string "a\" : [", .ofInt (-3)]),
      ("b\n", .object [("", .null), (":", .array [])])]
    v.WellFormed ∧ withoutBlanks (encode true v).toList = v.compactString.toList
      ∧ (encode false v).toList = spacedOut v.plainText.toList ∧ keysAscend v.tokens = true := by
  intro v
  have hv : v.WellFormed := ⟨List.pairwise_pair.2 (by decide), ⟨trivial, trivial, rfl, trivial⟩,
    ⟨List.pairwise_pair.2 (by decide), trivial, trivial, trivial⟩, trivial⟩
  obtain ⟨hplain, -, hpretty, hspaced, -, -, hkeys⟩ := encode_layout v
  refine ⟨hv, hpretty true, ?_, hkeys hv⟩
  rw [hplain fun s => by simp [v]]
  exact hspaced

end Output

end Switchboard
