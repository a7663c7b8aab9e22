import Switchboard.Proofs.Json.Reading
import Switchboard.Proofs.Literal.Agreement

/-!
# Printed values

A printed value is its tokens with blanks between them, whatever the style: `LaidOut` says what that
is, and `laidOut_print` that it is so. Tokens that were laid out are found again
(`tokenize_laidOut`). For that, a number or a word must end where its text does; that it does is
known from what may come after it, not from where the style has blanks.

The tokens of a value are read as the value, and need as much room as the value is deep
(`reads_tokens`). So a value that was printed in any style is read back (`parse?_of_laidOut`), and
there is nothing in its text but the texts of tokens and the blanks of the style (`LaidOut.forall`).
-/

namespace Switchboard.Json

open Lexer

/-! ## Tokens with blanks between them -/

/-- A text that is the texts of tokens in a row, with characters of a kind anywhere between. -/
inductive LaidOut (isGap : Char → Prop) : List Token → List Char → Prop where
  | nil : LaidOut isGap [] []
  | gap {c : Char} {T : List Token} {s : List Char} : isGap c → LaidOut isGap T s →
      LaidOut isGap T (c :: s)
  | token (t : Token) {T : List Token} {s : List Char} : LaidOut isGap T s →
      LaidOut isGap (t :: T) (t.text ++ s)

/-- The blanks of a style are characters of a kind. -/
structure Style.Uses (style : Style) (isGap : Char → Prop) : Prop where
  afterOpen : ∀ depth, ∀ c ∈ style.afterOpen depth, isGap c
  afterComma : ∀ depth, ∀ c ∈ style.afterComma depth, isGap c
  beforeClose : ∀ depth, ∀ c ∈ style.beforeClose depth, isGap c
  afterColon : ∀ c ∈ style.afterColon, isGap c

section
variable {isGap : Char → Prop}

theorem Style.uses_compact : Style.compact.Uses isGap := by
  constructor <;> simp [Style.compact]

theorem Style.uses_spaced (hspace : isGap ' ') : Style.spaced.Uses isGap := by
  constructor <;> simp [Style.spaced, hspace]

theorem Style.uses_pretty (hspace : isGap ' ') (hline : isGap '\n') :
    Style.pretty.Uses isGap := by
  have hnewLine : ∀ depth, ∀ c ∈ newLine depth, isGap c := by
    intro depth c hc
    rcases List.mem_cons.1 hc with rfl | hc
    · exact hline
    · rwa [List.eq_of_mem_replicate hc]
  refine ⟨hnewLine, hnewLine, fun depth => hnewLine (depth - 1), ?_⟩
  simp [Style.pretty, hspace]

theorem LaidOut.gaps {b s : List Char} {T : List Token} (hb : ∀ c ∈ b, isGap c)
    (h : LaidOut isGap T s) : LaidOut isGap T (b ++ s) := by
  induction b with
  | nil => exact h
  | cons c b ih =>
      exact .gap (hb c List.mem_cons_self) (ih fun d hd => hb d (List.mem_cons_of_mem c hd))

/-- What holds of the gaps and of the characters of each token holds of all that is laid out. -/
theorem LaidOut.forall {p : Char → Prop} {T : List Token} {s : List Char}
    (h : LaidOut isGap T s) (hgap : ∀ c, isGap c → p c) (htext : ∀ t ∈ T, ∀ c ∈ t.text, p c) :
    ∀ c ∈ s, p c := by
  induction h with
  | nil => exact List.forall_mem_nil p
  | gap hc _ ih => exact List.forall_mem_cons.2 ⟨hgap _ hc, ih htext⟩
  | token t _ ih =>
      rw [List.forall_mem_cons] at htext
      exact List.forall_mem_append.2 ⟨htext.1, ih htext.2⟩

/-! ## What printing lays out -/

theorem tokensItems_cons (item : Json) (items : List Json) :
    tokensItems (item :: items)
      = item.tokens ++ items.flatMap fun item => .comma :: item.tokens := by
  induction items generalizing item with
  | nil => simp [tokensItems]
  | cons next items ih => rw [tokensItems, ih, List.flatMap_cons, List.cons_append]

/-- The tokens of a member. -/
def tokensMember (e : String × Json) : List Token := .string e.1 :: .colon :: e.2.tokens

theorem tokensMembers_cons (e : String × Json) (members : List (String × Json)) :
    tokensMembers (e :: members)
      = tokensMember e ++ members.flatMap fun e => .comma :: tokensMember e := by
  induction members generalizing e with
  | nil => simp [tokensMembers, tokensMember]
  | cons next members ih =>
      rw [tokensMembers, ih, List.flatMap_cons, List.cons_append]
      rfl

mutual

/-- **A printed value is its tokens** with blanks of the style between them, in front of anything
that is tokens with such blanks. -/
theorem laidOut_print {style : Style} (hstyle : style.Uses isGap) :
    ∀ (v : Json) (depth : Nat) {T : List Token} {s : List Char}, LaidOut isGap T s →
      LaidOut isGap (v.tokens ++ T) (print style depth v ++ s)
  | .null, _, _, _, h => .token .null h
  | .bool b, _, _, _, h => .token (.bool b) h
  | .number n, _, _, _, h => .token (.number n) h
  | .string text, _, _, _, h => .token (.string text) h
  | .array [], _, _, _, h => .token .openArray (.token .closeArray h)
  | .array (item :: items), depth, T, s, h => by
      -- from the end on: the bracket that closes is laid out first, the one that opens last
      have hclose := (LaidOut.token .closeArray h).gaps (hstyle.beforeClose (depth + 1))
      have hitems := laidOut_printItems hstyle items (depth + 1) hclose
      have hitem := laidOut_print hstyle item (depth + 1) hitems
      have hopen := LaidOut.token .openArray (hitem.gaps (hstyle.afterOpen (depth + 1)))
      simpa [tokens, tokensItems_cons, print, Token.text] using hopen
  | .object [], _, _, _, h => .token .openObject (.token .closeObject h)
  | .object ((key, value) :: members), depth, T, s, h => by
      have hclose := (LaidOut.token .closeObject h).gaps (hstyle.beforeClose (depth + 1))
      have hmembers := laidOut_printMembers hstyle members (depth + 1) hclose
      have hvalue := laidOut_print hstyle value (depth + 1) hmembers
      have hmember := LaidOut.token (.string key) (.token .colon (hvalue.gaps hstyle.afterColon))
      have hopen := LaidOut.token .openObject (hmember.gaps (hstyle.afterOpen (depth + 1)))
      simpa [tokens, tokensMembers_cons, tokensMember, print, Token.text] using hopen

theorem laidOut_printItems {style : Style} (hstyle : style.Uses isGap) :
    ∀ (items : List Json) (depth : Nat) {T : List Token} {s : List Char}, LaidOut isGap T s →
      LaidOut isGap ((items.flatMap fun item => .comma :: item.tokens) ++ T)
        (printItems style depth items ++ s)
  | [], _, _, _, h => h
  | item :: items, depth, T, s, h => by
      have hitem := laidOut_print hstyle item depth (laidOut_printItems hstyle items depth h)
      have hcomma := LaidOut.token .comma (hitem.gaps (hstyle.afterComma depth))
      simpa [printItems, Token.text] using hcomma

theorem laidOut_printMembers {style : Style} (hstyle : style.Uses isGap) :
    ∀ (members : List (String × Json)) (depth : Nat) {T : List Token} {s : List Char},
      LaidOut isGap T s →
      LaidOut isGap ((members.flatMap fun e => .comma :: tokensMember e) ++ T)
        (printMembers style depth members ++ s)
  | [], _, _, _, h => h
  | (key, value) :: members, depth, T, s, h => by
      have hvalue := laidOut_print hstyle value depth (laidOut_printMembers hstyle members depth h)
      have hmember := LaidOut.token (.string key) (.token .colon (hvalue.gaps hstyle.afterColon))
      have hcomma := LaidOut.token .comma (hmember.gaps (hstyle.afterComma depth))
      simpa [printMembers, tokensMember, Token.text] using hcomma

end

theorem laidOut_print_nil {style : Style} (hstyle : style.Uses isGap) (depth : Nat) (v : Json) :
    LaidOut isGap v.tokens (print style depth v) := by
  have h := laidOut_print hstyle v depth .nil
  rwa [List.append_nil, List.append_nil] at h

end

/-! ## What is found again -/

/-- A token whose text is read as that token. Where a number is none, its text may not be. -/
def Token.Legible : Token → Prop
  | .number n => Number.ofText? n.text = some n
  | _ => True

theorem tokenize_text {t : Token} {s : List Char} (ht : t.Legible)
    (hbreak : (∀ u, t.follows u → u.separates = true) → StartsWithBreak s) :
    tokenize (t.text ++ s) = (tokenize s).map (t :: ·) := by
  cases t with
  | openArray | closeArray | openObject | closeObject | comma | colon => exact tokenize_mark rfl s
  | null => exact tokenize_append (s := "null".toList) rfl (hbreak fun _ h => h)
  | bool b =>
      cases b with
      | false => exact tokenize_append (s := "false".toList) rfl (hbreak fun _ h => h)
      | true => exact tokenize_append (s := "true".toList) rfl (hbreak fun _ h => h)
  | number n => exact tokenize_append (tokenize_number ht) (hbreak fun _ h => h)
  | string text =>
      have hquote := tokenize_quote text.toList s
      rwa [String.ofList_toList] at hquote

/-- **Tokens that were laid out are found again**, if they may come one after the other. -/
theorem tokenize_laidOut {T : List Token} {s : List Char}
    (h : LaidOut (fun c => isBlank c = true) T s) (hchain : T.IsChain Token.follows)
    (hlegible : ∀ t ∈ T, t.Legible) : tokenize s = some T := by
  induction h with
  | nil => rfl
  | gap hc _ ih =>
      rw [tokenize_blank hc]
      exact ih hchain hlegible
  | token t _ ih =>
      rw [List.forall_mem_cons] at hlegible
      have hrest := ih hchain.tail hlegible.2
      -- after a number or a word there is no other, so what comes next ends it
      have hbreak := fun ht => Literal.startsWithBreak_of_follows ht hrest hchain
      rw [tokenize_text hlegible.1 hbreak, hrest]
      rfl

/-! ## What is read back -/

mutual

/-- **The tokens of a value are read as the value**, if there is room for as many brackets as it is
deep. -/
theorem reads_tokens : ∀ v : Json, v.WellFormed → Reads v.depth v.tokens v
  | .null, _ | .bool _, _ | .number _, _ | .string _, _ => .atom rfl fun _ => rfl
  | .array [], _ => reads_emptyArray
  | .array (v :: vs), h => (readsItems_tokens (v :: vs) (List.cons_ne_nil _ _) h).array
  | .object [], _ => reads_emptyObject
  | .object (e :: es), h => by
      have hobject := (readsMembers_tokens (e :: es) (List.cons_ne_nil _ _) h.2).object
      -- the members are in order, so it does not matter that the reader puts them in order
      rwa [Entries.ofList_eq_of_perm (.refl _) h.1] at hobject

theorem readsItems_tokens : ∀ vs : List Json, vs ≠ [] → WellFormedItems vs →
    ReadsItems (depthItems vs) (tokensItems vs) vs
  | [], hne, _ => absurd rfl hne
  | [v], _, h => by
      have hdepth : depthItems [v] = v.depth := Nat.max_zero _
      rw [hdepth]
      exact .one (reads_tokens v h.1)
  | v :: w :: vs, _, h =>
      .more (reads_tokens v h.1) (readsItems_tokens (w :: vs) (List.cons_ne_nil _ _) h.2)

theorem readsMembers_tokens : ∀ es : List (String × Json), es ≠ [] → WellFormedMembers es →
    ReadsMembers (depthMembers es) (tokensMembers es) es
  | [], hne, _ => absurd rfl hne
  | [(key, v)], _, h => by
      have hdepth : depthMembers [(key, v)] = v.depth := Nat.max_zero _
      rw [hdepth]
      exact .one (reads_tokens v h.1)
  | (key, v) :: e :: es, _, h =>
      .more (reads_tokens v h.1) (readsMembers_tokens (e :: es) (List.cons_ne_nil _ _) h.2)

end

/-- **A value is read back** from its tokens, however they were laid out. -/
theorem parse?_of_laidOut {v : Json} {s : List Char} (hv : v.WellFormed)
    (hlegible : ∀ t ∈ v.tokens, t.Legible) (hdepth : v.depth ≤ nestingLimit)
    (hs : LaidOut (fun c => isBlank c = true) v.tokens s) : parse? s = some v := by
  have htokens := (reads_tokens v hv).ofTokens?_eq
  rw [if_pos hdepth] at htokens
  obtain ⟨stack, hrun⟩ := ofTokens?_eq_some_iff.1 htokens
  rw [parse?, tokenize_laidOut hs (Reader.isChain_follows hrun) hlegible, Option.bind_some, htokens]

/-! ## What is in the text of a token -/

theorem le_toNat_of_isNumberChar {c : Char} (h : isNumberChar c = true) : 0x20 ≤ c.toNat := by
  simp only [isNumberChar, Bool.or_eq_true, beq_iff_eq] at h
  rcases h with ((((hdigit | rfl) | rfl) | rfl) | rfl) | rfl
  · have halnum : c.isAlphanum = true := by simp [Char.isAlphanum, hdigit]
    rw [isAlphanum_iff] at halnum
    omega
  all_goals decide

theorem le_toNat_of_mem_escapeChar {c d : Char} (h : d ∈ escapeChar c) : 0x20 ≤ d.toNat := by
  rcases escapeChar_cases c with ⟨e, hc, hescaped, -⟩ | ⟨hcontrol, hc⟩ | ⟨-, -, hvisible, hc⟩
  · have he : 0x20 ≤ e.toNat := by
      rcases Literal.escaped?_cases hescaped with ⟨hplain, -⟩ | ⟨-, -, hletter⟩
      · simp only [Literal.isPlainEscape, Bool.or_eq_true, beq_iff_eq] at hplain
        rcases hplain with ((rfl | rfl) | rfl) | rfl <;> decide
      · exact hletter
    rw [hc] at h
    simp only [List.mem_cons, List.not_mem_nil, or_false] at h
    rcases h with rfl | rfl
    · decide
    · exact he
  · have hdigit : ∀ k < 16, 0x20 ≤ (Nat.digitChar k).toNat := by decide
    rw [hc] at h
    simp only [List.mem_cons, List.not_mem_nil, or_false] at h
    rcases h with rfl | rfl | rfl | rfl | rfl | rfl
    · decide
    · decide
    · decide
    · decide
    · exact hdigit _ (by omega)
    · exact hdigit _ (by omega)
  · rw [hc, List.mem_singleton] at h
    rw [h]
    omega

/-- **No control character is written**, whatever a string says. -/
theorem Token.Legible.le_toNat {t : Token} (ht : t.Legible) : ∀ c ∈ t.text, 0x20 ≤ c.toNat := by
  cases t with
  | openArray | closeArray | openObject | closeObject | comma | colon | null =>
      simp [Token.text]
  | bool b => cases b <;> simp [Token.text]
  | number n =>
      intro c hc
      obtain ⟨sign, whole, fraction, exponent, htext, hparts⟩ := Number.parts_of_ofText? ht
      rw [Token.text, htext] at hc
      exact le_toNat_of_isNumberChar (List.all_eq_true.1 hparts.all_isNumberChar c hc)
  | string text =>
      intro c hc
      simp only [Token.text, quote, List.cons_append, List.mem_cons, List.mem_append,
        List.mem_flatMap, List.not_mem_nil, or_false] at hc
      rcases hc with rfl | ⟨d, -, hd⟩ | rfl
      · decide
      · exact le_toNat_of_mem_escapeChar hd
      · decide

end Switchboard.Json
