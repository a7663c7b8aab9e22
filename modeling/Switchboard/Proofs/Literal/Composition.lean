import Mathlib.Data.List.Forall2
import Switchboard.Proofs.Json.Reading
import Switchboard.Proofs.Literal.Pieces

/-!
# Literals side by side

An array of literals, written as the literals with commas between them in square brackets. One would
have it that such an array means what its items mean. It does, exactly if there is room for one
bracket more and the items can be read in one way: all of them strictly, or all of them loosely to
what they mean on their own (`parse_arrayOf_iff`). The text is read as a whole, so a single loose
item makes loose literals of all the others, and a JSON text need not mean the same as a loose
literal: its words are none there, and its escapes say something else.
-/

namespace Switchboard.Literal

open Json (Token tokenize ofTokens? parse? nestingLimit)
open Json.Lexer (StartsWithBreak startsWithBreak_cons)

/-! ## Items as text -/

/-- An array of literals as a literal. -/
def arrayOf (literals : List String) : String := "[" ++ Text.joinStrings ", " literals ++ "]"

/-- Items with commas between them, up to the bracket that closes them. -/
def itemsText (items : List (List Char)) : List Char :=
  Text.joinWith [',', ' '] items ++ [']']

theorem itemsText_one (s : List Char) : itemsText [s] = s ++ [']'] := rfl

theorem itemsText_more (s t : List Char) (ss : List (List Char)) :
    itemsText (s :: t :: ss) = s ++ ',' :: ' ' :: itemsText (t :: ss) := by
  have hjoin : Text.joinWith [',', ' '] (s :: t :: ss)
      = s ++ [',', ' '] ++ Text.joinWith [',', ' '] (t :: ss) := rfl
  rw [itemsText, itemsText, hjoin, List.append_assoc, List.append_assoc]
  rfl

theorem toList_arrayOf (literals : List String) :
    (arrayOf literals).toList = '[' :: itemsText (literals.map String.toList) := by
  have hitems : (Text.joinStrings ", " literals).toList
      = Text.joinWith [',', ' '] (literals.map String.toList) := String.toList_ofList
  rw [arrayOf, String.toList_append, String.toList_append, hitems]
  rfl

/-! ## Items that are JSON -/

/-- The tokens of items are the tokens of each. -/
theorem tokenize_itemsText {ss : List (List Char)} {Ts : List (List Token)} (hne : ss ≠ [])
    (h : List.Forall₂ (fun s T => tokenize s = some T) ss Ts) :
    tokenize (itemsText ss) = some (Json.joinTokens Ts ++ [.closeArray]) := by
  induction h with
  | nil => exact absurd rfl hne
  | @cons s T ss Ts hs hss ih =>
      cases hss with
      | nil =>
          rw [itemsText_one, Json.Lexer.tokenize_append hs (startsWithBreak_cons (by decide) _)]
          rfl
      | @cons s' T' ss Ts hs' hss =>
          have hcomma : Json.Lexer.mark? ',' = some .comma := rfl
          rw [itemsText_more, Json.Lexer.tokenize_append hs (startsWithBreak_cons (by decide) _),
            Json.Lexer.tokenize_mark hcomma, Json.Lexer.tokenize_blank (by decide),
            ih (List.cons_ne_nil _ _), Json.joinTokens_more, List.append_assoc]
          rfl

/-- How many arrays and objects a text of JSON opens at a time. -/
def textNesting (s : List Char) : Nat := ((tokenize s).map Json.nesting).getD 0

theorem exists_tokens {ss : List (List Char)} {vs : List Json}
    (h : List.Forall₂ (fun s v => parse? s = some v) ss vs) :
    ∃ Ts, List.Forall₂ (fun s T => tokenize s = some T) ss Ts ∧
      List.Forall₂ (fun T v => ofTokens? T = some v) Ts vs := by
  induction h with
  | nil => exact ⟨[], .nil, .nil⟩
  | cons hs _ ih =>
      obtain ⟨T, hT, hv⟩ := Option.bind_eq_some_iff.1 hs
      obtain ⟨Ts, hTs, hvs⟩ := ih
      exact ⟨T :: Ts, .cons hT hTs, .cons hv hvs⟩

theorem forall_nesting_iff {ss : List (List Char)} {Ts : List (List Token)} {n : Nat}
    (h : List.Forall₂ (fun s T => tokenize s = some T) ss Ts) :
    (∀ T ∈ Ts, Json.nesting T < n) ↔ ∀ s ∈ ss, textNesting s < n := by
  induction h with
  | nil => exact iff_of_true (List.forall_mem_nil _) (List.forall_mem_nil _)
  | cons hs _ ih =>
      rw [List.forall_mem_cons, List.forall_mem_cons, ih, textNesting, hs]
      rfl

/-- **JSON texts side by side** are an array of what they are, if there is room for it. -/
theorem parse?_array {ss : List (List Char)} {vs : List Json} (hne : ss ≠ [])
    (h : List.Forall₂ (fun s v => parse? s = some v) ss vs) :
    parse? ('[' :: itemsText ss)
      = if ∀ s ∈ ss, textNesting s < nestingLimit then some (.array vs) else none := by
  obtain ⟨Ts, hTs, hvs⟩ := exists_tokens h
  have hTsne : Ts ≠ [] := by
    rintro rfl
    cases hTs
    exact hne rfl
  have hopen : Json.Lexer.mark? '[' = some .openArray := rfl
  rw [parse?, Json.Lexer.tokenize_mark hopen, tokenize_itemsText hne hTs, Option.map_some,
    Option.bind_some, Json.ofTokens?_join hTsne hvs]
  exact if_congr (forall_nesting_iff hTs) rfl rfl

/-- **What stands in an array of JSON** is JSON, item by item, if it can be read loosely. -/
theorem tokenize_of_itemsText {ss : List (List Char)} {T : List Token}
    (hlexemes : ∀ s ∈ ss, ∃ A, lexemes? s = some A) (h : tokenize (itemsText ss) = some T)
    (hchain : T.IsChain Token.follows) :
    ∀ s ∈ ss, ∃ U, tokenize s = some U ∧ U.IsChain Token.follows := by
  induction ss generalizing T with
  | nil => exact List.forall_mem_nil _
  | cons s ss ih =>
      rw [List.forall_mem_cons] at hlexemes ⊢
      obtain ⟨⟨A, hA⟩, hss⟩ := hlexemes
      cases ss with
      | nil =>
          rw [itemsText_one] at h
          obtain ⟨U, V, hU, -, rfl⟩ := tokenize_split h hA (startsWithBreak_cons (by decide) _)
          exact ⟨⟨U, hU, hchain.left_of_append⟩, List.forall_mem_nil _⟩
      | cons t ss =>
          rw [itemsText_more] at h
          obtain ⟨U, V, hU, hV, rfl⟩ := tokenize_split h hA (startsWithBreak_cons (by decide) _)
          have hcomma : Json.Lexer.mark? ',' = some .comma := rfl
          rw [Json.Lexer.tokenize_mark hcomma, Json.Lexer.tokenize_blank (by decide)] at hV
          obtain ⟨W, hW, rfl⟩ := Option.map_eq_some_iff.1 hV
          exact ⟨⟨U, hU, hchain.left_of_append⟩, ih hss hW hchain.right_of_append.tail⟩

/-! ## Items that are loosened -/

/-- The last item, with the bracket after it. -/
theorem loosenLexemes?_last {A : List Lexeme} (h : Apart A) :
    loosenLexemes? (A ++ [.mark ']']) = (loosenLexemes? A).map (· ++ [']']) := by
  have hbracket : loosenLexemes? [.mark ']'] = some [']'] := rfl
  rw [loosenLexemes?_append (Or.inl h.endsInComma), hbracket]
  cases loosenLexemes? A <;> rfl

/-- An item with another after it. -/
theorem loosenLexemes?_item {A B : List Lexeme} (h : Apart A) (hB : closesNext B = false) :
    loosenLexemes? (A ++ .mark ',' :: .mark ' ' :: B)
      = (loosenLexemes? A).bind fun t => (loosenLexemes? B).map fun u => t ++ ',' :: ' ' :: u := by
  have hkeep : closesNext (.mark ' ' :: B) = false := by
    rw [closesNext, hB]
    rfl
  rw [loosenLexemes?_append (Or.inl h.endsInComma),
    loosenLexemes?_mark (by decide) (by decide) (Or.inr hkeep), loosenLexemes?_blank (by decide),
    Option.map_map]
  refine congrArg _ (funext fun t => ?_)
  rw [Option.map_map]
  rfl

theorem lexemes?_itemsText {ss : List (List Char)} (hne : ss ≠ [])
    (h : ∀ s ∈ ss, ∃ A, lexemes? s = some A ∧ Apart A) :
    ∃ B, lexemes? (itemsText ss) = some B ∧ closesNext B = false ∧
      ∀ u, loosenLexemes? B = some u ↔
        ∃ ts, List.Forall₂ (fun s t => loosenAll? s = some t) ss ts ∧ u = itemsText ts := by
  induction ss with
  | nil => exact absurd rfl hne
  | cons s ss ih =>
      rw [List.forall_mem_cons] at h
      obtain ⟨⟨A, hA, hapart⟩, hss⟩ := h
      have hall : loosenAll? s = loosenLexemes? A := by
        rw [loosenAll?, hA, Option.bind_some]
      have hcloses : ∀ C, closesNext (A ++ C) = false := by
        intro C
        rw [closesNext_append, hapart.closesNext, hapart.blank]
        rfl
      cases ss with
      | nil =>
          have hclose : lexemes? [']'] = some [.mark ']'] := rfl
          refine ⟨A ++ [.mark ']'], ?_, hcloses _, fun u => ?_⟩
          · rw [itemsText_one, lexemes?_append hA (startsWithBreak_cons (by decide) _), hclose]
            rfl
          · rw [loosenLexemes?_last hapart, ← hall, Option.map_eq_some_iff]
            constructor
            · rintro ⟨t, ht, rfl⟩
              exact ⟨[t], .cons ht .nil, rfl⟩
            · rintro ⟨ts, hts, rfl⟩
              obtain ⟨t, ts, ht, hnil, rfl⟩ := List.forall₂_cons_left_iff.1 hts
              cases hnil
              exact ⟨t, ht, rfl⟩
      | cons s' ss =>
          obtain ⟨B, hB, hB', htext⟩ := ih (List.cons_ne_nil _ _) hss
          refine ⟨A ++ .mark ',' :: .mark ' ' :: B, ?_, hcloses _, fun u => ?_⟩
          · rw [itemsText_more, lexemes?_append hA (startsWithBreak_cons (by decide) _),
              lexemes?_mark (by decide), lexemes?_mark (by decide), hB]
            rfl
          · rw [loosenLexemes?_item hapart hB', ← hall, Option.bind_eq_some_iff]
            simp only [Option.map_eq_some_iff, htext]
            constructor
            · rintro ⟨t, ht, _, ⟨ts, hts, rfl⟩, rfl⟩
              have hmore := hts
              obtain ⟨t', ts, -, -, rfl⟩ := List.forall₂_cons_left_iff.1 hts
              exact ⟨t :: t' :: ts, .cons ht hmore, (itemsText_more t t' ts).symm⟩
            · rintro ⟨ts, hts, rfl⟩
              obtain ⟨t, ts, ht, hrest, rfl⟩ := List.forall₂_cons_left_iff.1 hts
              refine ⟨t, ht, _, ⟨ts, hrest, rfl⟩, ?_⟩
              obtain ⟨t', ts, -, -, rfl⟩ := List.forall₂_cons_left_iff.1 hrest
              exact (itemsText_more t t' ts).symm

/-- **Literals side by side are loosened item by item.** -/
theorem loosenAll?_array {ss : List (List Char)} (hne : ss ≠ [])
    (h : ∀ s ∈ ss, ∃ A, lexemes? s = some A ∧ Apart A) (u : List Char) :
    loosenAll? ('[' :: itemsText ss) = some u ↔
      ∃ ts, List.Forall₂ (fun s t => loosenAll? s = some t) ss ts ∧ u = '[' :: itemsText ts := by
  obtain ⟨B, hB, -, htext⟩ := lexemes?_itemsText hne h
  have hall : loosenAll? ('[' :: itemsText ss) = (loosenLexemes? B).map ('[' :: ·) := by
    rw [loosenAll?, lexemes?_mark (by decide), hB, Option.map_some, Option.bind_some,
      loosenLexemes?_mark (by decide) (by decide) (Or.inl (by decide))]
  rw [hall, Option.map_eq_some_iff]
  constructor
  · rintro ⟨u, hu, rfl⟩
    obtain ⟨ts, hts, rfl⟩ := (htext u).1 hu
    exact ⟨ts, hts, rfl⟩
  · rintro ⟨ts, hts, rfl⟩
    exact ⟨itemsText ts, (htext _).2 ⟨ts, hts, rfl⟩, rfl⟩

theorem blankEnds_array (ss : List (List Char)) : BlankEnds ('[' :: itemsText ss) :=
  blankEnds_of_trim (trim_of_ends (by decide) (by decide) _)

/-! ## Items as literals -/

/-- The tokens that a literal is read as. -/
def tokens? (s : List Char) : Option (List Token) :=
  if (parse? s).isSome then tokenize s else (loosen? s).bind tokenize

/-- How many arrays and objects a literal opens at a time. -/
def nesting (s : List Char) : Nat := ((tokens? s).map Json.nesting).getD 0

/-- A literal may stand beside others. -/
theorem apart_of_value? {s : List Char} {v : Json} (hs : BlankEnds s) (h : value? s = some v) :
    ∃ A, lexemes? s = some A ∧ Apart A := by
  rcases value?_cases h with h | ⟨-, h⟩
  · exact apart_of_json h
  · rw [looseValue?_eq hs] at h
    obtain ⟨t, ht, hv⟩ := Option.bind_eq_some_iff.1 h
    obtain ⟨A, hA, ht⟩ := Option.bind_eq_some_iff.1 ht
    exact ⟨A, hA, apart_of_parse? ht hv⟩

/-- A literal that can be loosened is JSON then, and opens no more and no fewer brackets. -/
theorem loosened_of_value? {s t : List Char} {v : Json} (hs : BlankEnds s)
    (h : value? s = some v) (ht : loosenAll? s = some t) :
    ∃ w, parse? t = some w ∧ textNesting t = nesting s := by
  rcases value?_cases h with h | ⟨hnone, h⟩
  · obtain ⟨T, hT, hv⟩ := Option.bind_eq_some_iff.1 h
    obtain ⟨stack, hrun⟩ := Json.ofTokens?_eq_some_iff.1 hv
    obtain ⟨U, hU, hkind⟩ := kind_of_loosenAll? hT (Json.Reader.isChain_follows hrun) ht
    obtain ⟨w, hw⟩ := Json.exists_ofTokens?_of_kind hkind hv
    refine ⟨w, ?_, ?_⟩
    · rw [parse?, hU, Option.bind_some, hw]
    · rw [textNesting, nesting, tokens?, h, Option.isSome_some, if_pos rfl, hT, hU,
        Option.map_some, Option.map_some, Json.nesting_of_kind hkind]
  · rw [looseValue?_eq hs, ht, Option.bind_some] at h
    refine ⟨v, h, ?_⟩
    rw [textNesting, nesting, tokens?, hnone, Option.isSome_none, if_neg Bool.false_ne_true,
      loosen?_bind_tokenize hs, ht, Option.bind_some]

/-- Literals that were loosened, with what they are then. -/
theorem exists_loosened {ss ts : List (List Char)} {vs : List Json} (hs : ∀ s ∈ ss, BlankEnds s)
    (h : List.Forall₂ (fun s v => value? s = some v) ss vs)
    (hts : List.Forall₂ (fun s t => loosenAll? s = some t) ss ts) :
    ∃ ws, List.Forall₂ (fun t w => parse? t = some w) ts ws ∧
      List.Forall₂ (fun s w => looseValue? s = some w) ss ws ∧
      ((∀ t ∈ ts, textNesting t < nestingLimit) ↔ ∀ s ∈ ss, nesting s < nestingLimit) := by
  induction hts generalizing vs with
  | nil =>
      exact ⟨[], .nil, .nil, iff_of_true (List.forall_mem_nil _) (List.forall_mem_nil _)⟩
  | @cons s t ss ts ht hts ih =>
      obtain ⟨v, vs, hv, hvs, rfl⟩ := List.forall₂_cons_left_iff.1 h
      rw [List.forall_mem_cons] at hs
      obtain ⟨w, hw, hnesting⟩ := loosened_of_value? hs.1 hv ht
      obtain ⟨ws, hws, hloose, hall⟩ := ih hs.2 hvs
      have hvalue : looseValue? s = some w := by
        rw [looseValue?_eq hs.1, ht, Option.bind_some, hw]
      refine ⟨w :: ws, .cons hw hws, .cons hvalue hloose, ?_⟩
      rw [List.forall_mem_cons, List.forall_mem_cons, hall, hnesting]

theorem exists_of_forall₂ {ss : List (List Char)} {vs : List Json}
    {f : List Char → Option Json} (h : List.Forall₂ (fun s v => f s = some v) ss vs) :
    ∀ s ∈ ss, ∃ v, f s = some v := by
  induction h with
  | nil => exact List.forall_mem_nil _
  | cons hv _ ih => exact List.forall_mem_cons.2 ⟨⟨_, hv⟩, ih⟩

theorem exists_texts {ss : List (List Char)} {vs : List Json} (hs : ∀ s ∈ ss, BlankEnds s)
    (h : List.Forall₂ (fun s v => looseValue? s = some v) ss vs) :
    ∃ ts, List.Forall₂ (fun s t => loosenAll? s = some t) ss ts := by
  induction h with
  | nil => exact ⟨[], .nil⟩
  | cons hv _ ih =>
      rw [List.forall_mem_cons] at hs
      rw [looseValue?_eq hs.1] at hv
      obtain ⟨t, ht, -⟩ := Option.bind_eq_some_iff.1 hv
      obtain ⟨ts, hts⟩ := ih hs.2
      exact ⟨t :: ts, .cons ht hts⟩

theorem forall₂_unique {ss : List (List Char)} {vs ws : List Json} {f : List Char → Option Json}
    (h : List.Forall₂ (fun s v => f s = some v) ss vs)
    (h' : List.Forall₂ (fun s w => f s = some w) ss ws) : vs = ws := by
  induction h generalizing ws with
  | nil =>
      cases h'
      rfl
  | cons hv _ ih =>
      obtain ⟨w, ws, hw, hws, rfl⟩ := List.forall₂_cons_left_iff.1 h'
      rw [Option.some.inj (hv.symm.trans hw), ih hws]

/-- **An array read loosely** is the array of its items read loosely. -/
theorem looseValue?_array_iff {ss : List (List Char)} {vs : List Json} (hne : ss ≠ [])
    (hs : ∀ s ∈ ss, BlankEnds s) (h : List.Forall₂ (fun s v => value? s = some v) ss vs)
    (ws : List Json) :
    looseValue? ('[' :: itemsText ss) = some (.array ws) ↔
      (∀ s ∈ ss, nesting s < nestingLimit) ∧
        List.Forall₂ (fun s w => looseValue? s = some w) ss ws := by
  have happart : ∀ s ∈ ss, ∃ A, lexemes? s = some A ∧ Apart A := by
    intro s hmem
    obtain ⟨v, hv⟩ := exists_of_forall₂ h s hmem
    exact apart_of_value? (hs s hmem) hv
  rw [looseValue?_eq (blankEnds_array ss)]
  have htextne : ∀ {ts : List (List Char)},
      List.Forall₂ (fun s t => loosenAll? s = some t) ss ts → ts ≠ [] := by
    rintro ts hts rfl
    cases hts
    exact hne rfl
  constructor
  · intro hvalue
    -- the text is that of the items side by side, so its value is that of theirs
    obtain ⟨u, hu, hparse⟩ := Option.bind_eq_some_iff.1 hvalue
    obtain ⟨ts, hts, rfl⟩ := (loosenAll?_array hne happart u).1 hu
    obtain ⟨ws', hws, hloose, hnesting⟩ := exists_loosened hs h hts
    rw [parse?_array (htextne hts) hws] at hparse
    split at hparse
    · next hroom =>
      cases Option.some.inj hparse
      exact ⟨hnesting.1 hroom, hloose⟩
    · cases hparse
  · rintro ⟨hnesting, hloose⟩
    obtain ⟨ts, hts⟩ := exists_texts hs hloose
    obtain ⟨ws', hws, hloose', hiff⟩ := exists_loosened hs h hts
    rw [(loosenAll?_array hne happart _).2 ⟨ts, hts, rfl⟩, Option.bind_some,
      parse?_array (htextne hts) hws, if_pos (hiff.2 hnesting), forall₂_unique hloose hloose']

/-- An array that is JSON has only items that are. -/
theorem isSome_of_array {ss : List (List Char)} {vs : List Json} {w : Json}
    (hs : ∀ s ∈ ss, BlankEnds s) (h : List.Forall₂ (fun s v => value? s = some v) ss vs)
    (hw : parse? ('[' :: itemsText ss) = some w) : ∀ s ∈ ss, (parse? s).isSome = true := by
  obtain ⟨T, hT, hvalue⟩ := Option.bind_eq_some_iff.1 hw
  obtain ⟨stack, hrun⟩ := Json.ofTokens?_eq_some_iff.1 hvalue
  have hchain := Json.Reader.isChain_follows hrun
  have hopen : Json.Lexer.mark? '[' = some .openArray := rfl
  rw [Json.Lexer.tokenize_mark hopen] at hT
  obtain ⟨U, hU, rfl⟩ := Option.map_eq_some_iff.1 hT
  have hlexemes : ∀ s ∈ ss, ∃ A, lexemes? s = some A := by
    intro s hmem
    obtain ⟨v, hv⟩ := exists_of_forall₂ h s hmem
    obtain ⟨A, hA, -⟩ := apart_of_value? (hs s hmem) hv
    exact ⟨A, hA⟩
  intro s hmem
  obtain ⟨V, hV, hchain⟩ := tokenize_of_itemsText hlexemes hU hchain.tail s hmem
  obtain ⟨v, hv⟩ := exists_of_forall₂ h s hmem
  rcases value?_cases hv with hv | ⟨-, hv⟩
  · rw [hv]
    rfl
  · -- what the item is loosened to has the kinds of tokens that the item has itself
    rw [looseValue?_eq (hs s hmem)] at hv
    obtain ⟨t, ht, hparse⟩ := Option.bind_eq_some_iff.1 hv
    obtain ⟨W, hW, hkind⟩ := kind_of_loosenAll? hV hchain ht
    rw [parse?, hW, Option.bind_some] at hparse
    obtain ⟨w, hw⟩ := Json.exists_ofTokens?_of_kind hkind.symm hparse
    rw [parse?, hV, Option.bind_some, hw]
    rfl

theorem parse?_of_isSome {ss : List (List Char)} {vs : List Json}
    (hall : ∀ s ∈ ss, (parse? s).isSome = true)
    (h : List.Forall₂ (fun s v => value? s = some v) ss vs) :
    List.Forall₂ (fun s v => parse? s = some v) ss vs ∧ ∀ s ∈ ss, textNesting s = nesting s := by
  induction h with
  | nil => exact ⟨.nil, List.forall_mem_nil _⟩
  | @cons s v ss vs hv _ ih =>
      rw [List.forall_mem_cons] at hall
      obtain ⟨hparse, hnesting⟩ := ih hall.2
      have hs : parse? s = some v := by
        rcases value?_cases hv with hv | ⟨hnone, -⟩
        · exact hv
        · rw [hnone] at hall
          exact absurd hall.1 Bool.false_ne_true
      refine ⟨.cons hs hparse, List.forall_mem_cons.2 ⟨?_, hnesting⟩⟩
      rw [textNesting, nesting, tokens?, hs, Option.isSome_some, if_pos rfl]

/-- `parse_arrayOf_iff`, on lists of characters. -/
theorem value?_array_iff {ss : List (List Char)} {vs : List Json} (hne : ss ≠ [])
    (hs : ∀ s ∈ ss, BlankEnds s) (h : List.Forall₂ (fun s v => value? s = some v) ss vs) :
    value? ('[' :: itemsText ss) = some (.array vs) ↔
      (∀ s ∈ ss, nesting s < nestingLimit) ∧
        ((∀ s ∈ ss, (parse? s).isSome = true) ∨
          List.Forall₂ (fun s v => looseValue? s = some v) ss vs) := by
  have hloose := looseValue?_array_iff hne hs h vs
  have hvalue : value? ('[' :: itemsText ss)
      = (parse? ('[' :: itemsText ss)).or (looseValue? ('[' :: itemsText ss)) := rfl
  rw [hvalue]
  by_cases hall : ∀ s ∈ ss, (parse? s).isSome = true
  · -- all of them are JSON: then so is the array, unless there is no room
    obtain ⟨hparse, hnesting⟩ := parse?_of_isSome hall h
    have hroom : (∀ s ∈ ss, textNesting s < nestingLimit) ↔ ∀ s ∈ ss, nesting s < nestingLimit :=
      forall₂_congr fun s hmem => by rw [hnesting s hmem]
    rw [parse?_array hne hparse]
    split
    · next hfits => exact iff_of_true rfl ⟨hroom.1 hfits, Or.inl hall⟩
    · next hfits =>
      rw [Option.none_or, hloose]
      exact iff_of_false (fun h => hfits (hroom.2 h.1)) (fun h => hfits (hroom.2 h.1))
  · -- one of them is not, so the array is loosened as a whole
    have hnone : parse? ('[' :: itemsText ss) = none := by
      cases hw : parse? ('[' :: itemsText ss) with
      | none => rfl
      | some w => exact absurd (isSome_of_array hs h hw) hall
    rw [hnone, Option.none_or, hloose]
    exact and_congr_right fun _ => (or_iff_right hall).symm

/-! ## Literals -/

/-- **Literals compose** exactly if there is room for one bracket more and all of them can be read
in one way, as JSON or after they were loosened, to what they mean on their own. -/
theorem parse_arrayOf_iff {literals : List String} {values : List Json} (hne : literals ≠ [])
    (hends : ∀ l ∈ literals, BlankEnds l.toList)
    (hparse : List.Forall₂ (fun l v => parse l = .ok v) literals values) :
    parse (arrayOf literals) = .ok (.array values) ↔
      (∀ l ∈ literals, nesting l.toList < nestingLimit) ∧
        ((∀ l ∈ literals, (parse? l.toList).isSome = true) ∨
          List.Forall₂ (fun l v => looseValue? l.toList = some v) literals values) := by
  have hmapne : literals.map String.toList ≠ [] := by
    rwa [ne_eq, List.map_eq_nil_iff]
  have hmapends : ∀ s ∈ literals.map String.toList, BlankEnds s := List.forall_mem_map.2 hends
  have hvalues :
      List.Forall₂ (fun s v => value? s = some v) (literals.map String.toList) values := by
    rw [List.forall₂_map_left_iff]
    exact hparse.imp fun _ _ => parse_eq_ok_iff.1
  rw [parse_eq_ok_iff, toList_arrayOf, value?_array_iff hmapne hmapends hvalues,
    List.forall_mem_map, List.forall_mem_map, List.forall₂_map_left_iff]

/-- A number, a tuple and a word compose, read loosely. -/
theorem parse_arrayOf_mixed :
    parse (arrayOf ["1", "('a',)", "None"])
      = .ok (.array [Json.ofInt 1, .array [.string "a"], .null]) := by
  have hends : ∀ l ∈ ["1", "('a',)", "None"], BlankEnds l.toList := by
    intro l hl
    simp only [List.mem_cons, List.not_mem_nil, or_false] at hl
    rcases hl with rfl | rfl | rfl <;> exact blankEnds_of_trim rfl
  have hroom : ∀ l ∈ ["1", "('a',)", "None"], nesting l.toList < nestingLimit := by
    intro l hl
    simp only [List.mem_cons, List.not_mem_nil, or_false] at hl
    rcases hl with rfl | rfl | rfl <;> decide
  exact (parse_arrayOf_iff (List.cons_ne_nil _ _) hends (.cons rfl (.cons rfl (.cons rfl .nil)))).2
    ⟨hroom, Or.inr (.cons rfl (.cons rfl (.cons rfl .nil)))⟩

/-- A string with an escape does not say beside a loose literal what it says on its own. -/
theorem not_parse_arrayOf :
    ¬ ∀ (literals : List String) (values : List Json), literals ≠ [] →
      (∀ l ∈ literals, BlankEnds l.toList) → (∀ v ∈ values, v.depth ≤ 126) →
      List.Forall₂ (fun l v => parse l = .ok v) literals values →
      parse (arrayOf literals) = .ok (.array values) := by
  intro hcompose
  have hstring : parse "\"a\\nb\"" = .ok (.string "a\nb") := rfl
  have hnone : parse "None" = .ok .null := rfl
  have hbeside : parse (arrayOf ["\"a\\nb\"", "None"])
      = .ok (.array [.string "anb", .null]) := rfl
  have hends : ∀ l ∈ ["\"a\\nb\"", "None"], BlankEnds l.toList := by
    intro l hl
    rcases List.mem_cons.1 hl with rfl | hl
    · exact blankEnds_of_trim rfl
    · rw [List.mem_singleton.1 hl]
      exact blankEnds_of_trim rfl
  have hdepth : ∀ v ∈ [Json.string "a\nb", .null], v.depth ≤ 126 := by
    intro v hv
    rcases List.mem_cons.1 hv with rfl | hv
    · exact Nat.zero_le _
    · rw [List.mem_singleton.1 hv]
      exact Nat.zero_le _
  have hvalue := hcompose _ _ (List.cons_ne_nil _ _) hends hdepth (.cons hstring (.cons hnone .nil))
  rw [hbeside] at hvalue
  have hhead := (List.cons.inj (Json.array.inj (Except.ok.inj hvalue))).1
  exact absurd (Json.string.inj hhead) (by decide)

end Switchboard.Literal
