import Mathlib.Data.List.Sort
import Mathlib.Data.String.Basic
import Switchboard.Choice
import Switchboard.Proofs.LowerCase

/-!
# Choices

A choice is found up to the case of the letters of ASCII, and shown in the lower case of all of
Unicode. The two notions of a spelling are `folded` and `Text.lowerString`. They agree on a choice
exactly if none of its characters beyond ASCII has a lower-case form (`AsciiCased`), and where they
disagree the list that a refusal shows misleads: it leaves the choice out, and it may offer a text
that is refused in its turn.

`parse_suggests` says what such a list is worth, for every list of choices and every value.
-/

namespace Switchboard.Choice

/-! ## Spellings -/

/-- A text with the letters of ASCII in lower case: what the spellings of a choice share. -/
def folded (s : String) : String := String.ofList (s.toList.map Text.lowerAscii)

/-- Beyond the letters of ASCII, no character of the text has a lower-case form. -/
def AsciiCased (s : String) : Prop :=
  ∀ c ∈ s.toList, Text.lowerChar c = [Text.lowerAscii c]

theorem eqIgnoringAsciiCase_iff (a b : String) :
    Text.eqIgnoringAsciiCase a.toList b.toList = true ↔ folded a = folded b := by
  rw [Text.eqIgnoringAsciiCase, beq_iff_eq, folded, folded, String.ofList_inj]

theorem lowerString_eq_folded_iff (s : String) : Text.lowerString s = folded s ↔ AsciiCased s := by
  rw [Text.lowerString, folded, String.ofList_inj]
  exact Text.lower_eq_map_lowerAscii_iff s.toList

/-- A text of ASCII is cased by it. -/
theorem asciiCased_of_ascii {s : String} (h : s.toList.all (·.toNat < 128) = true) :
    AsciiCased s :=
  fun _ hc => Text.lowerChar_of_lt_128 (of_decide_eq_true (List.all_eq_true.1 h _ hc))

@[simp] theorem lowerString_lowerString (s : String) :
    Text.lowerString (Text.lowerString s) = Text.lowerString s := by
  rw [Text.lowerString, Text.lowerString, String.toList_ofList, Text.lower_lower]

@[simp] theorem lowerString_folded (s : String) :
    Text.lowerString (folded s) = Text.lowerString s := by
  rw [Text.lowerString, folded, String.toList_ofList, Text.lower_map_lowerAscii, Text.lowerString]

@[simp] theorem folded_lowerString (s : String) :
    folded (Text.lowerString s) = Text.lowerString s := by
  rw [Text.lowerString, folded, String.toList_ofList, Text.map_lowerAscii_lower]

/-- What all spellings of a text share is in lower case only if it is the text's lower case. -/
theorem asciiCased_of_folded_eq {c s : String} (h : folded c = Text.lowerString s) :
    AsciiCased c := by
  rw [← lowerString_eq_folded_iff]
  calc Text.lowerString c = Text.lowerString (folded c) := (lowerString_folded c).symm
    _ = Text.lowerString (Text.lowerString s) := by rw [h]
    _ = folded c := by rw [lowerString_lowerString, h]

/-- Spellings of one text are alike in this. -/
theorem asciiCased_congr {c c' : String} (h : folded c = folded c') (hc : AsciiCased c) :
    AsciiCased c' := by
  refine asciiCased_of_folded_eq (s := c) ?_
  rw [← h, (lowerString_eq_folded_iff c).2 hc]

/-! ## Finding a choice -/

variable {choices : List String} {value : String}

/-- A choice that is found is one of the list, and a spelling of the value. -/
theorem mem_of_parse {choice : String} (h : parse choices value = .ok choice) :
    choice ∈ choices ∧ folded choice = folded value := by
  unfold parse at h
  split at h
  · rename_i found hfind
    rw [← Except.ok.inj h]
    have hsame := List.find?_some hfind
    exact ⟨List.mem_of_find?_eq_some hfind, (eqIgnoringAsciiCase_iff found value).1 hsame⟩
  · exact absurd h (by simp)

/-- A value is accepted exactly if it is a spelling of a choice. -/
theorem exists_parse_iff :
    (∃ choice, parse choices value = .ok choice) ↔
      ∃ choice ∈ choices, folded choice = folded value := by
  constructor
  · rintro ⟨choice, h⟩
    exact ⟨choice, mem_of_parse h⟩
  · rintro ⟨choice, hmem, hfolded⟩
    unfold parse
    split
    · exact ⟨_, rfl⟩
    · rename_i hnone
      exact absurd ((eqIgnoringAsciiCase_iff _ _).2 hfolded) (List.find?_eq_none.1 hnone _ hmem)

/-- Spellings of one text find the same choice. -/
theorem parse_congr {choice other : String} (h : folded value = folded other)
    (hparse : parse choices value = .ok choice) : parse choices other = .ok choice := by
  have hsame : (fun c : String => Text.eqIgnoringAsciiCase c.toList other.toList) =
      fun c : String => Text.eqIgnoringAsciiCase c.toList value.toList := by
    funext c
    rw [Bool.eq_iff_iff, eqIgnoringAsciiCase_iff, eqIgnoringAsciiCase_iff, h]
  unfold parse at hparse ⊢
  rw [hsame]
  split at hparse
  · exact hparse
  · exact absurd hparse (by simp)

/-- A refusal names what is shown. -/
theorem suggested_of_parse {given : String} {suggested : List String}
    (h : parse choices value = .error (.invalidChoice given suggested)) :
    suggested = shown choices := by
  unfold parse at h
  split at h
  · exact absurd h (by simp)
  · injection h with h
    injection h with _ h
    exact h.symm

/-! ## The list that is shown -/

@[simp] theorem mem_dropRepeats {t : String} {texts : List String} :
    t ∈ dropRepeats texts ↔ t ∈ texts := by
  fun_induction dropRepeats texts with
  | case1 => rfl
  | case2 => rfl
  | case3 next rest ih =>
    rw [ih, List.mem_cons (l := next :: rest), List.mem_cons, or_self_left]
  | case4 s next rest hne ih =>
    rw [List.mem_cons, ih, ← List.mem_cons]

/-- Of a sorted list, no text is left twice. -/
theorem pairwise_dropRepeats {texts : List String} (h : texts.Pairwise (· ≤ ·)) :
    (dropRepeats texts).Pairwise (· < ·) := by
  fun_induction dropRepeats texts with
  | case1 => exact List.Pairwise.nil
  | case2 s => exact List.pairwise_singleton _ s
  | case3 next rest ih => exact ih (List.pairwise_cons.1 h).2
  | case4 s next rest hne ih =>
    -- the next text is greater, and no later one is less than that
    obtain ⟨hs, hrest⟩ := List.pairwise_cons.1 h
    refine List.pairwise_cons.2 ⟨fun t ht => ?_, ih hrest⟩
    have hnext : s < next := lt_of_le_of_ne (hs next List.mem_cons_self) hne
    rcases List.mem_cons.1 (mem_dropRepeats.1 ht) with rfl | ht
    · exact hnext
    · exact hnext.trans_le ((List.pairwise_cons.1 hrest).1 t ht)

theorem mem_shown {s : String} : s ∈ shown choices ↔ ∃ c ∈ choices, Text.lowerString c = s := by
  rw [shown, mem_dropRepeats, List.mem_mergeSort, List.mem_map]

theorem pairwise_shown (choices : List String) : (shown choices).Pairwise (· < ·) :=
  pairwise_dropRepeats (List.pairwise_mergeSort' _ _)

/-! ## What a refusal is worth -/

/-- Whether all of the texts are accepted. -/
def AllAccepted (choices texts : List String) : Prop :=
  ∀ s ∈ texts, ∃ choice, parse choices s = .ok choice

/-- Whether every choice that a value can find is found by one of the texts. -/
def AllFound (choices texts : List String) : Prop :=
  ∀ value choice, parse choices value = .ok choice → ∃ s ∈ texts, parse choices s = .ok choice

/-- What is shown is accepted exactly if each choice in lower case is a spelling of a choice. -/
theorem allAccepted_shown_iff (choices : List String) :
    AllAccepted choices (shown choices) ↔
      ∀ c ∈ choices, ∃ c' ∈ choices, folded c' = Text.lowerString c := by
  simp only [AllAccepted, exists_parse_iff, mem_shown, forall_exists_index, and_imp,
    forall_apply_eq_imp_iff₂, folded_lowerString]

/-- **What is shown finds every choice exactly if the choices are cased by ASCII.** -/
theorem allFound_shown_iff (choices : List String) :
    AllFound choices (shown choices) ↔ ∀ c ∈ choices, AsciiCased c := by
  constructor
  · intro h c hc
    obtain ⟨choice, hparse⟩ := exists_parse_iff.2 ⟨c, hc, rfl⟩
    obtain ⟨s, hs, hfound⟩ := h c choice hparse
    obtain ⟨c', -, rfl⟩ := mem_shown.1 hs
    -- a text in lower case finds the choice, so what the choice's spellings share is that text
    have hchoice : folded choice = Text.lowerString c' := by
      rw [(mem_of_parse hfound).2, folded_lowerString]
    exact asciiCased_congr (mem_of_parse hparse).2 (asciiCased_of_folded_eq hchoice)
  · intro h value choice hparse
    obtain ⟨hmem, hfolded⟩ := mem_of_parse hparse
    have hlower := (lowerString_eq_folded_iff choice).2 (h choice hmem)
    -- its own lower case is shown, and is a spelling of it
    refine ⟨Text.lowerString choice, mem_shown.2 ⟨choice, hmem, rfl⟩, parse_congr ?_ hparse⟩
    rw [folded_lowerString, hlower, hfolded]

/-- **What a refusal is worth.** The texts it suggests ascend. They are accepted and find every
choice exactly if the choices are cased by ASCII. To find every choice takes no less; to be accepted
it is enough that each choice in lower case is a spelling of a choice. -/
theorem parse_suggests {given : String} {suggested : List String}
    (h : parse choices value = .error (.invalidChoice given suggested)) :
    suggested.Pairwise (· < ·) ∧
      (AllAccepted choices suggested ∧ AllFound choices suggested ↔ ∀ c ∈ choices, AsciiCased c) ∧
      (AllFound choices suggested ↔ ∀ c ∈ choices, AsciiCased c) ∧
      (AllAccepted choices suggested ↔
        ∀ c ∈ choices, ∃ c' ∈ choices, folded c' = Text.lowerString c) := by
  rw [suggested_of_parse h, allFound_shown_iff, allAccepted_shown_iff]
  refine ⟨pairwise_shown choices, and_iff_right_of_imp fun hcased c hc => ?_, Iff.rfl, Iff.rfl⟩
  exact ⟨c, hc, ((lowerString_eq_folded_iff c).2 (hcased c hc)).symm⟩

theorem parse_suggests_dim :
    parse ["Dim", "Off", "off"] "blink" = .error (.invalidChoice "blink" ["dim", "off"]) ∧
      AllAccepted ["Dim", "Off", "off"] ["dim", "off"] ∧
      AllFound ["Dim", "Off", "off"] ["dim", "off"] := by
  have hlower : ["Dim", "Off", "off"].map Text.lowerString = ["dim", "off", "off"] := by
    decide +kernel
  have hsorted : ["dim", "off", "off"].mergeSort (· ≤ ·) = ["dim", "off", "off"] :=
    List.mergeSort_of_pairwise (by decide)
  have hnone : ["Dim", "Off", "off"].find? (fun choice =>
      Text.eqIgnoringAsciiCase choice.toList "blink".toList) = none := by decide
  have h : parse ["Dim", "Off", "off"] "blink" =
      .error (.invalidChoice "blink" ["dim", "off"]) := by
    rw [parse, hnone, shown, hlower, hsorted]
    rfl
  have hascii : ∀ c ∈ ["Dim", "Off", "off"], c.toList.all (·.toNat < 128) = true := by decide
  exact ⟨h, (parse_suggests h).2.1.2 fun c hc => asciiCased_of_ascii (hascii c hc)⟩

/-- A refusal may suggest the very value that it refuses. -/
theorem not_parse_suggests : ¬ ∀ (choices : List String) (value given : String)
    (suggested : List String),
    parse choices value = .error (.invalidChoice given suggested) →
      suggested.Pairwise (· < ·) ∧ AllAccepted choices suggested ∧
        AllFound choices suggested := by
  intro h
  have hrefused : parse ["Öl"] "öl" = .error (.invalidChoice "öl" ["öl"]) := by decide +kernel
  obtain ⟨-, haccepted, -⟩ := h _ _ _ _ hrefused
  obtain ⟨choice, haccepted⟩ := haccepted "öl" List.mem_cons_self
  rw [hrefused] at haccepted
  exact absurd haccepted (by simp)

end Switchboard.Choice
