/-!
# Splitting and joining

The parts of a text between separators, and parts put together with a separator between them.
-/

namespace Switchboard.Text

/-- The parts of a text between the separators `sep`; there is one part more than separators. -/
def splitOn (sep : Char) : List Char → List (List Char)
  | [] => [[]]
  | c :: rest =>
    if c = sep then [] :: splitOn sep rest
    else
      match splitOn sep rest with
      | part :: parts => (c :: part) :: parts
      | [] => [[c]]

/-- A text cut at the first place where `pair` stands twice: what is before and after it. -/
def cutAtDouble? (pair : Char) : List Char → Option (List Char × List Char)
  | [] => none
  | c :: rest =>
    if c = pair ∧ rest.head? = some pair then some ([], rest.tail)
    else (cutAtDouble? pair rest).map fun (before, after) => (c :: before, after)

/-- Parts with a separator between each two. -/
def joinWith (sep : List Char) : List (List Char) → List Char
  | [] => []
  | [part] => part
  | part :: parts => part ++ sep ++ joinWith sep parts

/-- `joinWith`, on strings. -/
def joinStrings (sep : String) (parts : List String) : String :=
  String.ofList (joinWith sep.toList (parts.map String.toList))

theorem splitOn_ne_nil (sep : Char) (s : List Char) : splitOn sep s ≠ [] := by
  cases s with
  | nil => simp [splitOn]
  | cons c rest =>
    unfold splitOn
    split
    · simp
    · split <;> simp

theorem splitOn_append_cons {sep : Char} {s : List Char} (h : sep ∉ s) (rest : List Char) :
    splitOn sep (s ++ sep :: rest) = s :: splitOn sep rest := by
  induction s with
  | nil => simp [splitOn]
  | cons c s ih =>
    obtain ⟨hc, hs⟩ := not_or.1 (mt List.mem_cons.2 h)
    rw [List.cons_append, splitOn, if_neg (Ne.symm hc), ih hs]

/-- Parts without the separator come back from the text they were joined to. -/
theorem splitOn_joinWith {sep : Char} {parts : List (List Char)} (hne : parts ≠ [])
    (h : ∀ part ∈ parts, sep ∉ part) : splitOn sep (joinWith [sep] parts) = parts := by
  have hone (part : List Char) (hpart : sep ∉ part) : splitOn sep part = [part] := by
    induction part with
    | nil => rfl
    | cons c part ih =>
      obtain ⟨hc, hs⟩ := not_or.1 (mt List.mem_cons.2 hpart)
      rw [splitOn, if_neg (Ne.symm hc), ih hs]
  induction parts with
  | nil => exact absurd rfl hne
  | cons part parts ih =>
    have hpart := h part List.mem_cons_self
    cases parts with
    | nil => exact hone part hpart
    | cons part' parts =>
      rw [joinWith, List.append_assoc, List.singleton_append, splitOn_append_cons hpart,
        ih (List.cons_ne_nil _ _) fun part hmem => h part (List.mem_cons_of_mem _ hmem)]
      exact List.cons_ne_nil _ _

theorem mem_joinWith {sep : List Char} {parts : List (List Char)} {c : Char}
    (h : c ∈ joinWith sep parts) : c ∈ sep ∨ ∃ part ∈ parts, c ∈ part := by
  fun_induction joinWith sep parts with
  | case1 => cases h
  | case2 part => exact Or.inr ⟨part, List.mem_cons_self, h⟩
  | case3 part parts _ ih =>
    rcases List.mem_append.1 h with h | h
    · rcases List.mem_append.1 h with h | h
      · exact Or.inr ⟨part, List.mem_cons_self, h⟩
      · exact Or.inl h
    · rcases ih h with hsep | ⟨part', hmem, hc⟩
      · exact Or.inl hsep
      · exact Or.inr ⟨part', List.mem_cons_of_mem _ hmem, hc⟩

end Switchboard.Text
