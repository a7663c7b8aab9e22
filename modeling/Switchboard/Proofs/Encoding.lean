import Switchboard.Output
import Switchboard.Proofs.Json.Printing
import Switchboard.Proofs.Literal.Spelling

/-!
# Encodings are read back

What JSON output shows is read as what it was made from (`encode_reads_back`), one item a line or
not. The values meant are those whose numbers are integers: their texts are exact, and `Spellable`
says that they fit.
-/

namespace Switchboard

namespace Literal

mutual

theorem Spellable.wellFormed : ∀ {v : Json}, Spellable v → v.WellFormed
  | .null, _ | .bool _, _ | .string _, _ => trivial
  | .number (.int _), h => h
  | .array _, h => wellFormedItems_of_spellable h
  | .object _, h => ⟨h.1, wellFormedMembers_of_spellable h.2⟩

theorem wellFormedItems_of_spellable : ∀ {vs : List Json}, SpellableItems vs →
    Json.WellFormedItems vs
  | [], _ => trivial
  | _ :: _, h => ⟨h.1.wellFormed, wellFormedItems_of_spellable h.2⟩

theorem wellFormedMembers_of_spellable : ∀ {es : List (String × Json)}, SpellableMembers es →
    Json.WellFormedMembers es
  | [], _ => trivial
  | _ :: _, h => ⟨h.1.wellFormed, wellFormedMembers_of_spellable h.2⟩

end

mutual

theorem Spellable.legible : ∀ {v : Json}, Spellable v → ∀ t ∈ v.tokens, t.Legible
  | .null, _ | .bool _, _ | .string _, _ => List.forall_mem_singleton.2 trivial
  | .number (.int _), h => List.forall_mem_singleton.2 (Json.ofText?_ofInt h)
  | .array _, h => List.forall_mem_cons.2 ⟨trivial, List.forall_mem_append.2
      ⟨legible_of_spellableItems h, List.forall_mem_singleton.2 trivial⟩⟩
  | .object _, h => List.forall_mem_cons.2 ⟨trivial, List.forall_mem_append.2
      ⟨legible_of_spellableMembers h.2, List.forall_mem_singleton.2 trivial⟩⟩

theorem legible_of_spellableItems : ∀ {vs : List Json}, SpellableItems vs →
    ∀ t ∈ Json.tokensItems vs, t.Legible
  | [], _ => List.forall_mem_nil _
  | [_], h => h.1.legible
  | _ :: _ :: _, h => List.forall_mem_append.2
      ⟨h.1.legible, List.forall_mem_cons.2 ⟨trivial, legible_of_spellableItems h.2⟩⟩

theorem legible_of_spellableMembers : ∀ {es : List (String × Json)}, SpellableMembers es →
    ∀ t ∈ Json.tokensMembers es, t.Legible
  | [], _ => List.forall_mem_nil _
  | [_], h => List.forall_mem_cons.2 ⟨trivial, List.forall_mem_cons.2 ⟨trivial, h.1.legible⟩⟩
  | _ :: _ :: _, h => List.forall_mem_append.2
      ⟨List.forall_mem_cons.2 ⟨trivial, List.forall_mem_cons.2 ⟨trivial, h.1.legible⟩⟩,
        List.forall_mem_cons.2 ⟨trivial, legible_of_spellableMembers h.2⟩⟩

end

end Literal

namespace Output

open Json (LaidOut Style)

theorem laidOut_spaced {isGap : Char → Prop} (hspace : isGap ' ') (v : Json) :
    LaidOut isGap v.tokens (encode false v).toList := by
  have hspaced : (encode false v).toList = Json.print .spaced 0 v := String.toList_ofList
  rw [hspaced]
  exact Json.laidOut_print_nil (Style.uses_spaced hspace) 0 v

theorem laidOut_encode (pretty : Bool) (v : Json) :
    LaidOut (fun c => Json.Lexer.isBlank c = true) v.tokens (encode pretty v).toList := by
  have hspace : Json.Lexer.isBlank ' ' = true := rfl
  have hline : Json.Lexer.isBlank '\n' = true := rfl
  cases pretty with
  | false => exact laidOut_spaced hspace v
  | true =>
    have hpretty : (encode true v).toList = Json.print .pretty 0 v := String.toList_ofList
    rw [hpretty]
    exact Json.laidOut_print_nil (Style.uses_pretty hspace hline) 0 v

theorem laidOut_plainText {v : Json} (h : ∀ s, v ≠ .string s) :
    LaidOut (fun c => Json.Lexer.isBlank c = true) v.tokens v.plainText.toList := by
  have hplain : v.plainText = v.compactString := by
    cases v with
    | string s => exact absurd rfl (h s)
    | null | bool | number | array | object => rfl
  rw [hplain, Json.compactString, String.toList_ofList]
  exact Json.laidOut_print_nil Style.uses_compact 0 v

/-- What JSON reads is not loosened. -/
theorem parse_of_ofString? {text : String} {v : Json} (h : Json.ofString? text = some v) :
    Literal.parse text = .ok v := by
  rw [Literal.parse, Literal.value?, ← Json.ofString?, h]
  rfl

/-- On one line there are spaces between tokens and no control characters in them. -/
theorem le_toNat_of_mem_encode {v : Json} (hv : Literal.Spellable v) :
    ∀ c ∈ (encode false v).toList, 0x20 ≤ c.toNat := by
  have hspaced : LaidOut (Eq ' ') v.tokens (encode false v).toList := laidOut_spaced rfl v
  refine hspaced.forall ?_ fun t ht => (hv.legible t ht).le_toNat
  intro c hc
  rw [← hc]
  decide

/--
**Encodings are read back.**

A value whose numbers are integers that fit, and that is not nested too deep, is what is read in
each of its encodings, as JSON and as a literal. So it is in its text for humans, unless it is a
string, which stands there without quotes. The encoding on one line has no line break in it.
-/
theorem encode_reads_back {v : Json} (hv : Literal.Spellable v) (hdepth : v.depth ≤ 127) :
    (∀ pretty, Json.ofString? (encode pretty v) = some v
        ∧ Literal.parse (encode pretty v) = .ok v)
      ∧ ((∀ s, v ≠ .string s) →
        Json.ofString? v.plainText = some v ∧ Literal.parse v.plainText = .ok v)
      ∧ ∀ c ∈ (encode false v).toList, c ≠ '\n' ∧ c ≠ '\r' := by
  have hread : ∀ {text : String},
      LaidOut (fun c => Json.Lexer.isBlank c = true) v.tokens text.toList →
      Json.ofString? text = some v ∧ Literal.parse text = .ok v := by
    intro text hlaid
    have hjson : Json.ofString? text = some v :=
      Json.parse?_of_laidOut hv.wellFormed hv.legible hdepth hlaid
    exact ⟨hjson, parse_of_ofString? hjson⟩
  refine ⟨fun pretty => hread (laidOut_encode pretty v), fun h => hread (laidOut_plainText h), ?_⟩
  intro c hc
  have hvisible := le_toNat_of_mem_encode hv c hc
  constructor
  · rintro rfl
    exact absurd hvisible (by decide)
  · rintro rfl
    exact absurd hvisible (by decide)

/-- A value with both ends of the integers, an object without members and an array without items,
and a key and a string of characters that are escaped. -/
theorem encode_reads_back_nested :
    let v : Json := .object [("\n\"é", .array [.ofInt (-9223372036854775808), .object [],
      .string "\r\x01\\"]), ("𝄞", .array [.array [], .ofInt 18446744073709551615])]
    Json.ofString? (encode true v) = some v ∧ Literal.parse v.plainText = .ok v := by
  intro v
  have hleast : Json.Number.fits (-9223372036854775808) = true := by decide
  have hgreatest : Json.Number.fits 18446744073709551615 = true := by decide
  have hv : Literal.Spellable v := ⟨List.pairwise_pair.2 (by decide),
    ⟨hleast, ⟨.nil, trivial⟩, trivial, trivial⟩, ⟨trivial, hgreatest, trivial⟩, trivial⟩
  have h := encode_reads_back hv (by decide)
  exact ⟨(h.1 true).1, (h.2.1 fun s => by simp [v]).2⟩

end Output

end Switchboard
