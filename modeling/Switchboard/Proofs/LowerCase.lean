import Mathlib.Data.List.Chain
import Mathlib.Data.List.TakeWhile
import Switchboard.Text.LowerCase

/-!
# Lower case

Texts are lowered in two ways: by the full mapping of Unicode, which looks at the neighbours of a
capital sigma, and by the letters of ASCII alone. What is lowered in full has nothing left to lower
in either way (`lower_lower`), and lowering the letters of ASCII first makes no difference to the
full mapping (`lower_map_lowerAscii`). The two agree on a text exactly if they do on each of its
characters (`lower_eq_map_lowerAscii_iff`).

What the table of letters says is checked here, run by run; nothing else reads it.
-/

namespace Switchboard.Text

/-! ## The table -/

theorem lowered_ascends : CaseTable.lowered.Pairwise fun run later => run.1 < later.1 := by
  have hchain : (CaseTable.lowered.map (·.1)).IsChain (· < ·) := by decide +kernel
  exact List.pairwise_map.1 hchain.pairwise

/-- The runs that do not end before `lo`, up to those that begin behind `hi`. -/
def runsWithin (lo hi : Nat) : List (Nat × Nat × Nat × Int) :=
  (CaseTable.lowered.dropWhile fun run => run.2.1.blt lo).takeWhile fun run => run.1.ble hi

/-- Since the runs ascend, none that begins by `hi` is left out. -/
theorem mem_takeWhile_of_ascends {hi : Nat} {runs : List (Nat × Nat × Nat × Int)}
    (h : runs.Pairwise fun run later => run.1 < later.1) {run : Nat × Nat × Nat × Int}
    (hmem : run ∈ runs) (hrun : run.1 ≤ hi) : run ∈ runs.takeWhile fun run => run.1.ble hi := by
  induction runs with
  | nil => exact hmem
  | cons first runs ih =>
    obtain ⟨hfirst, hruns⟩ := List.pairwise_cons.1 h
    rw [List.takeWhile_cons]
    rcases List.mem_cons.1 hmem with rfl | hmem
    · rw [if_pos (Nat.ble_eq_true_of_le hrun)]
      exact List.mem_cons_self
    · have hbegins : first.1 ≤ hi := Nat.le_trans (Nat.le_of_lt (hfirst run hmem)) hrun
      rw [if_pos (Nat.ble_eq_true_of_le hbegins)]
      exact List.mem_cons_of_mem _ (ih hruns hmem)

theorem mem_runsWithin (lo hi : Nat) {run : Nat × Nat × Nat × Int}
    (h : run ∈ CaseTable.lowered) (hlo : lo ≤ run.2.1) (hhi : run.1 ≤ hi) :
    run ∈ runsWithin lo hi := by
  have hascends := lowered_ascends
  rw [← List.takeWhile_append_dropWhile (p := fun run => run.2.1.blt lo) (l := CaseTable.lowered)]
    at h hascends
  refine mem_takeWhile_of_ascends (List.pairwise_append.1 hascends).2.1 ?_ hhi
  -- a run that does not end before `lo` is not dropped
  refine (List.mem_append.1 h).resolve_left fun hbefore => ?_
  have hends := List.mem_takeWhile_imp hbefore
  rw [Nat.blt_eq] at hends
  omega

/-- **What is checked of each run.** It leads to characters, and to none of the three that are asked
about below, the braces and `İ`. If it begins in ASCII, it is that of the capitals. The runs that
its images fall among have every other code point only, and they fall between these. -/
theorem lowered_runs : ∀ run ∈ CaseTable.lowered,
    0 < (run.1 : Int) + run.2.2.2 ∧
      ((run.2.1 : Int) + run.2.2.2 < 0xD800 ∨
        0xDFFF < (run.1 : Int) + run.2.2.2 ∧ (run.2.1 : Int) + run.2.2.2 < 0x110000) ∧
      (∀ k ∈ [0x7B, 0x7D, 0x130],
        ¬ ((run.1 : Int) + run.2.2.2 ≤ (k : Nat) ∧ ((k : Nat) : Int) ≤ run.2.1 + run.2.2.2)) ∧
      (run.1 < 128 → run.1 = 0x41 ∧ run.2.1 = 0x5A) ∧
      ∀ other ∈ runsWithin (run.1 + run.2.2.2).toNat (run.2.1 + run.2.2.2).toNat,
        other.2.2.1 = 2 ∧ (run.2.2.1 = 2 ∨ run.1 = run.2.1) ∧
          (run.1 + run.2.2.2 + other.1) % 2 = 1 := by
  decide +kernel

/-- A code point has no lower-case form, or is a member of a run and is moved by its offset. -/
theorem lowerCode_cases (n : Nat) :
    lowerCode n = n ∨
      ∃ first last step offset, (first, last, step, offset) ∈ CaseTable.lowered ∧
        first ≤ n ∧ n ≤ last ∧ (n - first) % step = 0 ∧ lowerCode n = (n + offset).toNat := by
  unfold lowerCode
  dsimp only
  split
  · rename_i first last step offset hfind
    have hin := List.find?_some hfind
    simp only [Bool.and_eq_true, decide_eq_true_eq, beq_iff_eq] at hin
    exact .inr ⟨first, last, step, offset, List.mem_of_find?_eq_some hfind, hin.1.1, hin.1.2,
      hin.2, rfl⟩
  · exact .inl rfl

/-- No other code point than itself is lowered to a brace or to `İ`. -/
theorem eq_of_lowerCode {n k : Nat} (hk : k ∈ [0x7B, 0x7D, 0x130]) (h : lowerCode n = k) :
    n = k := by
  rcases lowerCode_cases n with hself | ⟨first, last, step, offset, hrun, hfirst, hlast, -, hcode⟩
  · exact hself.symm.trans h
  · obtain ⟨hpos, -, hmiss, -⟩ := lowered_runs _ hrun
    have hmiss := hmiss k hk
    dsimp only at hpos hmiss
    omega

/-- **What a code point is lowered to** is a member of no run. -/
theorem lowerCode_lowerCode (n : Nat) : lowerCode (lowerCode n) = lowerCode n := by
  rcases lowerCode_cases n with hself | ⟨first, last, step, offset, hrun, hfirst, hlast, hstep, hn⟩
  · rw [hself, hself]
  · rcases lowerCode_cases (lowerCode n) with
      hself | ⟨first', last', step', offset', hrun', hfirst', hlast', hstep', -⟩
    · exact hself
    · -- if the image of one run were a member of another, it would fall among the runs there,
      -- and those have members at every other code point, where it is not
      exfalso
      obtain ⟨hpos, -, -, -, hapart⟩ := lowered_runs _ hrun
      rw [hn] at hfirst' hlast' hstep'
      have hwithin := mem_runsWithin (first + offset).toNat (last + offset).toNat hrun'
        (by dsimp only; omega) (by dsimp only; omega)
      obtain ⟨htwo, hmembers, hodd⟩ := hapart _ hwithin
      dsimp only at hpos htwo hmembers hodd
      subst htwo
      rcases hmembers with rfl | rfl <;> omega

/-- Lowering leads from characters to characters. -/
theorem isValidChar_lowerCode {n : Nat} (h : n.isValidChar) : (lowerCode n).isValidChar := by
  rcases lowerCode_cases n with hself | ⟨first, last, step, offset, hrun, hfirst, hlast, -, hn⟩
  · rwa [hself]
  · obtain ⟨hpos, hvalid, -⟩ := lowered_runs _ hrun
    dsimp only at hpos hvalid
    rw [hn, Nat.isValidChar]
    omega

/-! ## Characters -/

theorem toNat_ofNat_lowerCode (c : Char) :
    (Char.ofNat (lowerCode c.toNat)).toNat = lowerCode c.toNat := by
  have hvalid : (lowerCode c.toNat).isValidChar := isValidChar_lowerCode c.valid
  rw [Char.ofNat, dif_pos hvalid]
  rfl

/-- A character of a lower-case form is the one of `İ`, or the one that the table leads to. -/
theorem mem_lowerChar {c d : Char} (h : d ∈ lowerChar c) :
    (c = 'İ' ∧ (d = 'i' ∨ d = '\u0307')) ∨ (lowerChar c = [d] ∧ d.toNat = lowerCode c.toNat) := by
  unfold lowerChar at h ⊢
  split at h
  · rename_i hdotted
    exact .inl ⟨eq_of_beq hdotted, by simpa using h⟩
  · rename_i hdotted
    rw [if_neg hdotted, List.mem_singleton.1 h]
    exact .inr ⟨rfl, toNat_ofNat_lowerCode c⟩

/-- Lowering a character makes a brace, or an `İ`, of nothing but itself. -/
theorem eq_of_mem_lowerChar {b c : Char} (hb : b.toNat ∈ [0x7B, 0x7D, 0x130])
    (h : b ∈ lowerChar c) : c = b := by
  rcases mem_lowerChar h with ⟨-, rfl | rfl⟩ | ⟨-, hcode⟩
  · exact absurd hb (by decide)
  · exact absurd hb (by decide)
  · exact Char.toNat_inj.1 (eq_of_lowerCode hb hcode.symm)

/-- The characters that come up where the mapping leaves the table. -/
theorem lowerChar_special :
    lowerChar 'i' = ['i'] ∧ lowerChar '\u0307' = ['\u0307'] ∧ lowerChar 'Σ' = ['σ'] ∧
      lowerChar 'σ' = ['σ'] ∧ lowerChar 'ς' = ['ς'] := by
  decide +kernel

/-- **What a character is lowered to is lowered to itself.** -/
theorem lowerChar_of_mem_lowerChar {c d : Char} (h : d ∈ lowerChar c) : lowerChar d = [d] := by
  rcases mem_lowerChar h with ⟨-, rfl | rfl⟩ | ⟨hc, hcode⟩
  · exact lowerChar_special.1
  · exact lowerChar_special.2.1
  · have hdotted : ¬ (d == 'İ') = true := by
      intro hd
      rw [eq_of_beq hd] at h hc
      rw [eq_of_mem_lowerChar (by decide) h] at hc
      exact absurd hc (by decide)
    rw [lowerChar, if_neg hdotted, hcode, lowerCode_lowerCode, ← hcode, Char.ofNat_toNat]

/-! ## Texts -/

theorem lowerChar_of_mem_lowerAfter {d : Char} {before s : List Char}
    (h : d ∈ lowerAfter before s) : lowerChar d = [d] := by
  induction s generalizing before with
  | nil => exact absurd h List.not_mem_nil
  | cons c s ih =>
    rw [lowerAfter, List.mem_append] at h
    rcases h with h | h
    · split at h
      · -- either form of the sigma is a small letter
        obtain ⟨-, -, -, hmedial, hfinal⟩ := lowerChar_special
        rw [List.mem_singleton.1 h]
        split
        · exact hfinal
        · exact hmedial
      · exact lowerChar_of_mem_lowerChar h
    · exact ih h

/-- A text in lower case stays as it is, wherever it stands. -/
theorem lowerAfter_of_fixed {before s : List Char} (h : ∀ c ∈ s, lowerChar c = [c]) :
    lowerAfter before s = s := by
  induction s generalizing before with
  | nil => rfl
  | cons c s ih =>
    obtain ⟨hc, hs⟩ := List.forall_mem_cons.1 h
    have hsigma : ¬ (c == 'Σ') = true := by
      intro hc'
      rw [eq_of_beq hc', lowerChar_special.2.2.1] at hc
      exact absurd hc (by decide)
    rw [lowerAfter, if_neg hsigma, hc, ih hs]
    rfl

theorem lower_lower (s : List Char) : lower (lower s) = lower s :=
  lowerAfter_of_fixed fun _ => lowerChar_of_mem_lowerAfter

/-! ## The letters of ASCII -/

/-- What is to be shown of the capitals of ASCII is shown of each. -/
theorem forall_capital {p : Char → Prop} (h : ∀ k ∈ List.range 26, p (Char.ofNat (65 + k)))
    {c : Char} (hc : 'A' ≤ c ∧ c ≤ 'Z') : p c := by
  obtain ⟨hA, hZ⟩ := hc
  have hA : 65 ≤ c.toNat := hA
  have hZ : c.toNat ≤ 90 := hZ
  have := h (c.toNat - 65) (List.mem_range.2 (by omega))
  rwa [Nat.add_sub_cancel' hA, Char.ofNat_toNat] at this

/-- **What is checked of each capital.** Its lower-case form is a small letter of ASCII, by either
way, and both have a case. -/
theorem capitals {c : Char} (hc : 'A' ≤ c ∧ c ≤ 'Z') :
    (0x41 ≤ c.toNat ∧ c.toNat ≤ 0x5A) ∧
      (0x61 ≤ (lowerAscii c).toNat ∧ (lowerAscii c).toNat ≤ 0x7A) ∧
      lowerChar c = [lowerAscii c] ∧ lowerAscii (lowerAscii c) = lowerAscii c ∧
      inRanges CaseTable.cased (lowerAscii c).toNat = inRanges CaseTable.cased c.toNat :=
  forall_capital (p := fun c => (0x41 ≤ c.toNat ∧ c.toNat ≤ 0x5A) ∧
    (0x61 ≤ (lowerAscii c).toNat ∧ (lowerAscii c).toNat ≤ 0x7A) ∧
    lowerChar c = [lowerAscii c] ∧ lowerAscii (lowerAscii c) = lowerAscii c ∧
    inRanges CaseTable.cased (lowerAscii c).toNat = inRanges CaseTable.cased c.toNat)
    (by decide +kernel) hc

/-- On the characters of ASCII the two ways agree. -/
theorem lowerChar_of_lt_128 {c : Char} (h : c.toNat < 128) : lowerChar c = [lowerAscii c] := by
  by_cases hc : 'A' ≤ c ∧ c ≤ 'Z'
  · exact (capitals hc).2.2.1
  · have hdotted : ¬ (c == 'İ') = true := by
      intro heq
      rw [eq_of_beq heq] at h
      exact absurd h (by decide)
    rw [lowerChar, if_neg hdotted, lowerAscii, if_neg hc]
    rcases lowerCode_cases c.toNat with
      hself | ⟨first, last, step, offset, hrun, hfirst, hlast, -, -⟩
    · rw [hself, Char.ofNat_toNat]
    · obtain ⟨-, -, -, hascii, -⟩ := lowered_runs _ hrun
      obtain ⟨rfl, rfl⟩ := hascii (Nat.lt_of_le_of_lt hfirst h)
      exact absurd ⟨hfirst, hlast⟩ hc

/-- What the capitals of ASCII share with their lower-case forms, all characters do. -/
theorem lowerAscii_congr {α : Type} (f : Char → α)
    (h : ∀ c : Char, 'A' ≤ c ∧ c ≤ 'Z' → f (lowerAscii c) = f c) (c : Char) :
    f (lowerAscii c) = f c := by
  by_cases hc : 'A' ≤ c ∧ c ≤ 'Z'
  · exact h c hc
  · rw [lowerAscii, if_neg hc]

theorem lowerChar_lowerAscii (c : Char) : lowerChar (lowerAscii c) = lowerChar c := by
  refine lowerAscii_congr lowerChar (fun c hc => ?_) c
  obtain ⟨-, hsmall, hchar, hfixed, -⟩ := capitals hc
  rw [lowerChar_of_lt_128 (by omega), hfixed, hchar]

/-- A character in lower case is no capital of ASCII. -/
theorem lowerAscii_of_fixed {c : Char} (h : lowerChar c = [c]) : lowerAscii c = c := by
  by_cases hc : 'A' ≤ c ∧ c ≤ 'Z'
  · exact (List.cons.inj ((capitals hc).2.2.1.symm.trans h)).1
  · rw [lowerAscii, if_neg hc]

/-- The letters of ASCII are not passed over in the search for one with a case. -/
theorem inRanges_caseIgnorable_lowerAscii (c : Char) :
    inRanges CaseTable.caseIgnorable (lowerAscii c).toNat
      = inRanges CaseTable.caseIgnorable c.toNat := by
  have hranges : ∀ range ∈ CaseTable.caseIgnorable,
      range.2 < 0x41 ∨ 0x5A < range.1 ∧ range.2 < 0x61 ∨ 0x7A < range.1 := by
    decide +kernel
  have hletter {n : Nat} (hn : 0x41 ≤ n ∧ n ≤ 0x5A ∨ 0x61 ≤ n ∧ n ≤ 0x7A) :
      inRanges CaseTable.caseIgnorable n = false := by
    refine List.any_eq_false.2 fun range hrange => ?_
    have := hranges range hrange
    simp only [Bool.and_eq_true, decide_eq_true_eq]
    omega
  refine lowerAscii_congr (fun c => inRanges CaseTable.caseIgnorable c.toNat) (fun c hc => ?_) c
  obtain ⟨hcapital, hsmall, -⟩ := capitals hc
  rw [hletter (.inl hcapital), hletter (.inr hsmall)]

theorem inRanges_cased_lowerAscii (c : Char) :
    inRanges CaseTable.cased (lowerAscii c).toNat = inRanges CaseTable.cased c.toNat :=
  lowerAscii_congr (fun c => inRanges CaseTable.cased c.toNat)
    (fun _ hc => (capitals hc).2.2.2.2) c

theorem isSigma_lowerAscii (c : Char) : (lowerAscii c == 'Σ') = (c == 'Σ') :=
  lowerAscii_congr (· == 'Σ')
    (fun _ => forall_capital (p := fun c => (lowerAscii c == 'Σ') = (c == 'Σ')) (by decide)) c

theorem meetsCased_map_lowerAscii (s : List Char) :
    meetsCased (s.map lowerAscii) = meetsCased s := by
  have hignored : (fun c : Char => inRanges CaseTable.caseIgnorable c.toNat) ∘ lowerAscii =
      fun c : Char => inRanges CaseTable.caseIgnorable c.toNat :=
    funext inRanges_caseIgnorable_lowerAscii
  rw [meetsCased, meetsCased, List.dropWhile_map, hignored]
  cases s.dropWhile fun c => inRanges CaseTable.caseIgnorable c.toNat with
  | nil => rfl
  | cons c rest => exact inRanges_cased_lowerAscii c

theorem lowerAfter_map_lowerAscii (before s : List Char) :
    lowerAfter (before.map lowerAscii) (s.map lowerAscii) = lowerAfter before s := by
  induction s generalizing before with
  | nil => rfl
  | cons c s ih =>
    rw [List.map_cons, lowerAfter, lowerAfter, ← List.map_cons, ih,
      isSigma_lowerAscii, meetsCased_map_lowerAscii, meetsCased_map_lowerAscii,
      lowerChar_lowerAscii]

/-- Lowering the letters of ASCII first makes no difference. -/
theorem lower_map_lowerAscii (s : List Char) : lower (s.map lowerAscii) = lower s :=
  lowerAfter_map_lowerAscii [] s

/-- Nothing is left to lower, letters of ASCII included. -/
theorem map_lowerAscii_lower (s : List Char) : (lower s).map lowerAscii = lower s :=
  (List.map_congr_left fun _ h => lowerAscii_of_fixed (lowerChar_of_mem_lowerAfter h)).trans
    (List.map_id _)

/-! ## Where the two ways agree -/

/-- **The two ways agree on a text exactly if they agree on its characters.** -/
theorem lower_eq_map_lowerAscii_iff (s : List Char) :
    lower s = s.map lowerAscii ↔ ∀ c ∈ s, lowerChar c = [lowerAscii c] := by
  constructor
  · intro h c hc
    have hmem : lowerAscii c ∈ lower s := h ▸ List.mem_map_of_mem hc
    exact lowerChar_lowerAscii c ▸ lowerChar_of_mem_lowerAfter hmem
  · intro h
    rw [← lower_map_lowerAscii]
    -- what ASCII makes of the text is in lower case already
    refine lowerAfter_of_fixed fun d hd => ?_
    obtain ⟨c, hc, rfl⟩ := List.mem_map.1 hd
    rw [lowerChar_lowerAscii, h c hc]

end Switchboard.Text
