import Mathlib.Data.List.DropRight
import Switchboard.Text.Blank

/-!
# What trimming leaves

What is taken off a text are blanks, and what is left of it neither begins nor ends with one.
-/

namespace Switchboard.Text

/-- A text that neither begins nor ends with a blank. -/
def Trimmed (s : List Char) : Prop :=
  (∀ c ∈ s.head?, isBlank c = false) ∧ ∀ c ∈ s.getLast?, isBlank c = false

theorem trimEnd_eq_rdropWhile (s : List Char) : trimEnd s = s.rdropWhile isBlank := rfl

/-- What is taken off the end are blanks. -/
theorem exists_trimEnd_append (s : List Char) :
    ∃ blanks, s = trimEnd s ++ blanks ∧ blanks.all isBlank = true := by
  refine ⟨(s.reverse.takeWhile isBlank).reverse, ?_, ?_⟩
  · rw [trimEnd, ← List.reverse_append, List.takeWhile_append_dropWhile, List.reverse_reverse]
  · rw [List.all_reverse]
    exact List.all_takeWhile

/-- Trimming takes blanks off the two ends. -/
theorem exists_padding (s : List Char) :
    ∃ a b, s = a ++ trim s ++ b ∧ a.all isBlank = true ∧ b.all isBlank = true := by
  obtain ⟨b, hb, hblanks⟩ := exists_trimEnd_append (s.dropWhile isBlank)
  refine ⟨s.takeWhile isBlank, b, ?_, List.all_takeWhile, hblanks⟩
  rw [trim, List.append_assoc, ← hb, List.takeWhile_append_dropWhile]

theorem isBlank_getLast?_trimEnd {s : List Char} {c : Char} (h : c ∈ (trimEnd s).getLast?) :
    isBlank c = false := by
  rw [trimEnd_eq_rdropWhile] at h
  obtain ⟨hne, hlast⟩ := List.mem_getLast?_eq_getLast h
  rw [hlast]
  exact Bool.eq_false_iff.2 (List.rdropWhile_last_not isBlank s hne)

/-- A character stays in its place unless nothing but blanks comes from there on. -/
theorem getElem?_trimEnd {s : List Char} {p : Nat} {c : Char} (h : s[p]? = some c) :
    (trimEnd s)[p]? = if (s.drop p).all isBlank then none else some c := by
  obtain ⟨blanks, hs, hblanks⟩ := exists_trimEnd_append s
  by_cases hp : p < (trimEnd s).length
  · -- the last character that is left is no blank, and it comes from there on
    have hne : trimEnd s ≠ [] := List.ne_nil_of_length_pos (Nat.zero_lt_of_lt hp)
    have hlast : isBlank ((trimEnd s).getLast hne) = false :=
      isBlank_getLast?_trimEnd (List.getLast?_eq_getLast_of_ne_nil hne)
    have hdrop : s.drop p = (trimEnd s).drop p ++ blanks := by
      conv_lhs => rw [hs]
      exact List.drop_append_of_le_length hp.le
    have hmem : (trimEnd s).getLast hne ∈ (trimEnd s).drop p := by
      rw [← List.getLast_drop (List.drop_eq_nil_iff.not.2 (Nat.not_le.2 hp))]
      exact List.getLast_mem _
    have hnot : ¬ (s.drop p).all isBlank = true := fun hall => by
      rw [hdrop] at hall
      rw [List.all_eq_true.1 hall _ (List.mem_append_left _ hmem)] at hlast
      cases hlast
    rw [if_neg hnot, ← h]
    conv_rhs => rw [hs, List.getElem?_append_left hp]
  · have hall : (s.drop p).all isBlank = true := by
      conv_lhs => rw [hs]
      rw [List.drop_append, List.drop_eq_nil_of_le (Nat.le_of_not_lt hp), List.nil_append]
      exact List.all_eq_true.2 fun c hc => List.all_eq_true.1 hblanks c (List.mem_of_mem_drop hc)
    rw [if_pos hall, List.getElem?_eq_none (Nat.le_of_not_lt hp)]

/-- Seen with spaces behind it, a text has its spaces in the same places after trimming. -/
theorem getD_trimEnd {s : List Char} {p : Nat} (h : s[p]?.getD ' ' = ' ') :
    (trimEnd s)[p]?.getD ' ' = ' ' := by
  cases hp : s[p]? with
  | some c =>
    rw [hp, Option.getD_some] at h
    rw [getElem?_trimEnd hp, h]
    split <;> rfl
  | none =>
    obtain ⟨blanks, hs, -⟩ := exists_trimEnd_append s
    have hlength := congrArg List.length hs
    rw [List.length_append] at hlength
    rw [List.getElem?_eq_none_iff] at hp
    rw [List.getElem?_eq_none (by omega)]
    rfl

/-- A text that is left begins as it began before blanks were taken off its end. -/
theorem head?_of_mem_head?_trimEnd {s : List Char} {c : Char} (h : c ∈ (trimEnd s).head?) :
    c ∈ s.head? := by
  obtain ⟨blanks, hs, -⟩ := exists_trimEnd_append s
  rw [hs]
  exact List.mem_head?_append_of_mem_head? h

theorem trimmed_trim (s : List Char) : Trimmed (trim s) := by
  refine ⟨fun c hc => ?_, fun c hc => isBlank_getLast?_trimEnd hc⟩
  have hhead := head?_of_mem_head?_trimEnd hc
  have hnot := List.head?_dropWhile_not isBlank s
  rw [Option.mem_def.1 hhead] at hnot
  exact Bool.eq_false_iff.2 fun hblank => by simp [hblank] at hnot

end Switchboard.Text
