import Switchboard.Proofs.Literal.Agreement

/-!
# Texts of JSON on either way

A literal that is JSON is never loosened by itself. Beside a loose literal it is, and then its
strings are read by the rule of loose literals: a backslash stands for the character after it. So
`\n` comes to be an `n`, and `\u00e9` the five characters after its backslash.

`strict_eq_loose_iff` says that this is all that loosening ever changes in a text of JSON, and that
it always does change the value where it changes a string: what the strings of the value have to
show grows with every escape that is not plain, and nothing else in the value makes up for it. The
one exception is a string that the value had lost before, in a member that another overwrites.
-/

namespace Switchboard.Literal

open Json (Token tokenize parse? stringsOf)

/--
**When the two ways agree.**

Let a text be JSON and be JSON again after it was loosened. Then the two have the same tokens but
for what their strings say, and the very same tokens exactly when the text is plain. In a plain text
the value is the same; in any other it is not, provided that no member of the text is overwritten.
-/
theorem strict_eq_loose_iff {s t : List Char} {v w : Json} (hv : parse? s = some v)
    (ht : loosen? s = some t) (hw : parse? t = some w) :
    ∃ T U, tokenize s = some T ∧ tokenize t = some U ∧ T.map Token.kind = U.map Token.kind
      ∧ (T = U ↔ Plain s = true)
      ∧ (Plain s = true → v = w)
      ∧ (v.strings = stringsOf T → v = w → Plain s = true) := by
  obtain ⟨T, U, A, hT, hvalue, hpieces, hA⟩ := loosened_of_parse? hv
  obtain ⟨W, hW, hwvalue⟩ := Option.bind_eq_some_iff.1 hw
  obtain rfl : W = U := by
    have htrim := loosen?_bind_tokenize (blankEnds_of_tokenize hT)
    rw [ht, Option.bind_some, hW, loosenAll?, hA.lexemes, Option.bind_some] at htrim
    obtain ⟨t', ht', htokens⟩ := Option.bind_eq_some_iff.1 htrim.symm
    exact Option.some.inj (htokens.symm.trans (hA.text t' ht').1)
  refine ⟨T, W, hT, hW, hpieces.kind_eq, ?_, ?_, ?_⟩
  · exact ⟨fun hsame => hpieces.plain_of_shown_eq (congrArg shown hsame), hpieces.eq_of_plain⟩
  · intro hplain
    rw [hpieces.eq_of_plain hplain, hwvalue] at hvalue
    exact (Option.some.inj hvalue).symm
  · rintro hkeeps rfl
    -- the strings of the one value are all there are in either text
    have hle := Json.strings_le_of_ofTokens? hwvalue
    have hcard : (stringsOf W).card ≤ v.strings.card := by
      rw [hkeeps, Json.card_stringsOf_of_kind hpieces.kind_eq]
    have hstrings : stringsOf T = stringsOf W :=
      hkeeps.symm.trans (Multiset.eq_of_le_of_card_le hle hcard)
    exact hpieces.plain_of_shown_eq (by rw [shown, shown, hstrings])

/-- A slash may stand after a backslash in either reading. -/
theorem strict_eq_loose_slash :
    let s := "[\"a\\/b\", 1]".toList
    let t := "[\"a/b\", 1]".toList
    ∃ v w, parse? s = some v ∧ loosen? s = some t ∧ parse? t = some w ∧ Plain s = true ∧ v = w := by
  intro s t
  have hv : parse? s = some (.array [.string "a/b", Json.ofInt 1]) := rfl
  have ht : loosen? s = some t := rfl
  have hw : parse? t = some (.array [.string "a/b", Json.ofInt 1]) := rfl
  have hplain : Plain s = true := by decide +kernel
  obtain ⟨T, U, -, -, -, -, hsame, -⟩ := strict_eq_loose_iff hv ht hw
  exact ⟨_, _, hv, ht, hw, hplain, hsame hplain⟩

/-- **A line break that is escaped** is an `n` after loosening. -/
theorem not_strict_eq_loose :
    ¬ ∀ (s t : List Char) (v w : Json), parse? s = some v → loosen? s = some t →
      parse? t = some w → v = w := by
  intro h
  have hv : parse? "\"a\\nb\"".toList = some (.string "a\nb") := rfl
  have ht : loosen? "\"a\\nb\"".toList = some "\"anb\"".toList := rfl
  have hw : parse? "\"anb\"".toList = some (.string "anb") := rfl
  exact absurd (Json.string.inj (h _ _ _ _ hv ht hw)) (by decide)

end Switchboard.Literal
