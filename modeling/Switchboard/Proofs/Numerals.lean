import Switchboard.Decimal

/-!
# Whole numbers within bounds

A whole number in decimal is digits, maybe after a sign. It is read from left to right, and the
first digit that breaks a bound ends the reading. Since a digit more never brings a number back
towards zero, what is refused on the way would be out of bounds in the end
(`integer_eq_ok_iff`).
-/

namespace Switchboard.Decimal

/-- Decimal digits, at least one. -/
structure AreDigits (s : List Char) : Prop where
  ne_nil : s ≠ []
  isDigit : ∀ c ∈ s, c.isDigit = true

/-- A text that denotes a whole number in decimal: digits, maybe after a sign. -/
inductive Denotes : List Char → Int → Prop where
  | plain {digits : List Char} : AreDigits digits → Denotes digits (natOf digits)
  | plus {digits : List Char} : AreDigits digits → Denotes ('+' :: digits) (natOf digits)
  | minus {digits : List Char} : AreDigits digits → Denotes ('-' :: digits) (-natOf digits)

/-! ## Digits after a sign -/

/-- The value of decimal digits behind those of another number. -/
def natFrom (value : Nat) (digits : List Char) : Nat :=
  digits.foldl (fun value c => 10 * value + (c.toNat - '0'.toNat)) value

theorem natFrom_zero (digits : List Char) : natFrom 0 digits = natOf digits := rfl

theorem natFrom_cons (value : Nat) (c : Char) (digits : List Char) :
    natFrom value (c :: digits) = natFrom (10 * value + (c.toNat - '0'.toNat)) digits := by
  rw [natFrom, List.foldl_cons, natFrom]

/-- More digits never make less. -/
theorem le_natFrom (value : Nat) (digits : List Char) : value ≤ natFrom value digits := by
  induction digits generalizing value with
  | nil => exact Nat.le_refl value
  | cons c digits ih =>
    rw [natFrom_cons]
    exact Nat.le_trans (by omega) (ih _)

/-- A magnitude with its sign. -/
def signed (negative : Bool) (magnitude : Nat) : Int :=
  if negative then -(magnitude : Int) else magnitude

theorem toNat_zero_le_of_isDigit {c : Char} (h : c.isDigit = true) : '0'.toNat ≤ c.toNat := by
  rw [Char.isDigit, Bool.and_eq_true, decide_eq_true_eq] at h
  exact UInt32.le_iff_toNat_le.1 h.1

section
variable {negative : Bool} {least greatest : Int}

/-- A digit is read where the number that it leads to is within the bounds. -/
theorem integerFrom_cons (hleast : least ≤ 0) (hgreatest : 0 ≤ greatest) {c : Char}
    (hc : c.isDigit = true) (value : Nat) (rest : List Char) :
    let next := signed negative (10 * value + (c.toNat - '0'.toNat))
    integerFrom negative least greatest (signed negative value) (c :: rest)
      = if least ≤ next ∧ next ≤ greatest then integerFrom negative least greatest next rest
        else .error (if negative then .tooSmall else .tooLarge) := by
  have hzero := toNat_zero_le_of_isDigit hc
  intro next
  rw [integerFrom, if_pos hc]
  cases negative with
  | true =>
    have hnext : signed true value * 10 - ((c.toNat : Int) - ('0'.toNat : Int)) = next := by
      simp only [next, signed, if_true]
      omega
    have hle : next ≤ greatest := by
      simp only [next, signed, if_true]
      omega
    simp only [hnext, if_true]
    by_cases hbound : next < least
    · rw [if_pos hbound, if_neg (by omega)]
    · rw [if_neg hbound, if_pos (by omega)]
  | false =>
    have hnext : signed false value * 10 + ((c.toNat : Int) - ('0'.toNat : Int)) = next := by
      simp only [next, signed, Bool.false_eq_true, if_false]
      omega
    have hle : least ≤ next := by
      simp only [next, signed, Bool.false_eq_true, if_false]
      omega
    simp only [hnext, Bool.false_eq_true, if_false]
    by_cases hbound : next > greatest
    · rw [if_pos hbound, if_neg (by omega)]
    · rw [if_neg hbound, if_pos (by omega)]

/-- A number that is out of bounds stays so. -/
theorem signed_natFrom_within (hleast : least ≤ 0) (hgreatest : 0 ≤ greatest) {value : Nat}
    {digits : List Char} (h : least ≤ signed negative (natFrom value digits)
      ∧ signed negative (natFrom value digits) ≤ greatest) :
    least ≤ signed negative value ∧ signed negative value ≤ greatest := by
  have hle := le_natFrom value digits
  cases negative with
  | true =>
    simp only [signed, if_true] at h ⊢
    omega
  | false =>
    simp only [signed, Bool.false_eq_true, if_false] at h ⊢
    omega

theorem integerFrom_eq_ok_iff (hleast : least ≤ 0) (hgreatest : 0 ≤ greatest) {value : Nat}
    (hvalue : least ≤ signed negative value ∧ signed negative value ≤ greatest) {s : List Char}
    {n : Int} :
    integerFrom negative least greatest (signed negative value) s = .ok n
      ↔ (∀ c ∈ s, c.isDigit = true) ∧ signed negative (natFrom value s) = n
        ∧ least ≤ n ∧ n ≤ greatest := by
  induction s generalizing value with
  | nil =>
    constructor
    · intro h
      cases h
      exact ⟨List.forall_mem_nil _, rfl, hvalue⟩
    · rintro ⟨-, rfl, -⟩
      rfl
  | cons c rest ih =>
    rw [List.forall_mem_cons, natFrom_cons]
    by_cases hc : c.isDigit = true
    · rw [integerFrom_cons hleast hgreatest hc]
      split
      · next hnext =>
        rw [ih hnext, and_iff_right hc]
      · next hnext =>
        refine iff_of_false (fun h => by cases h) ?_
        -- the digits that follow would not mend it
        rintro ⟨-, rfl, hwithin⟩
        exact hnext (signed_natFrom_within hleast hgreatest hwithin)
    · refine iff_of_false (fun h => ?_) (fun h => hc h.1.1)
      rw [integerFrom, if_neg hc] at h
      cases h

end

/-! ## Signs -/

theorem AreDigits.head?_ne {s : List Char} (h : AreDigits s) {c : Char}
    (hc : c.isDigit = false) : s.head? ≠ some c := by
  intro hhead
  have hdigit := h.isDigit c (List.mem_of_head? hhead)
  rw [hc] at hdigit
  cases hdigit

section
variable {least greatest : Int}

theorem integer_plus {digits : List Char} (h : digits ≠ []) :
    integer least greatest ('+' :: digits) = integerFrom false least greatest 0 digits := by
  cases digits with
  | nil => exact absurd rfl h
  | cons c rest => rfl

theorem integer_minus {digits : List Char} (h : digits ≠ []) :
    integer least greatest ('-' :: digits)
      = if least < 0 then integerFrom true least greatest 0 digits else .error .invalidDigit := by
  cases digits with
  | nil => exact absurd rfl h
  | cons c rest => rfl

theorem integer_plain {s : List Char} (h : s ≠ []) (hplus : s.head? ≠ some '+')
    (hminus : s.head? ≠ some '-') :
    integer least greatest s = integerFrom false least greatest 0 s := by
  unfold integer
  split
  · exact absurd rfl h
  · exact absurd rfl hplus
  · exact absurd rfl hminus
  · exact absurd rfl hplus
  · exact absurd rfl hminus
  · rfl

/-- **Which texts are whole numbers within bounds, and which numbers they are.** A minus is a sign
only where negative numbers are possible. -/
theorem integer_eq_ok_iff (hleast : least ≤ 0) (hgreatest : 0 ≤ greatest) {s : List Char}
    {n : Int} :
    integer least greatest s = .ok n
      ↔ Denotes s n ∧ (s.head? = some '-' → least < 0) ∧ least ≤ n ∧ n ≤ greatest := by
  have hfrom (negative : Bool) (digits : List Char) :
      integerFrom negative least greatest 0 digits = .ok n
        ↔ (∀ c ∈ digits, c.isDigit = true) ∧ signed negative (natOf digits) = n
          ∧ least ≤ n ∧ n ≤ greatest := by
    have hzero : signed negative 0 = 0 := by cases negative <;> rfl
    have hwithin : least ≤ signed negative 0 ∧ signed negative 0 ≤ greatest := by
      rw [hzero]
      exact ⟨hleast, hgreatest⟩
    have hiff := integerFrom_eq_ok_iff hleast hgreatest hwithin (s := digits) (n := n)
    rwa [hzero, natFrom_zero] at hiff
  constructor
  · intro h
    unfold integer at h
    split at h
    · cases h
    · cases h
    · cases h
    · next _ digits hne =>
      obtain ⟨hdigits, rfl, hbounds⟩ := (hfrom false digits).1 h
      exact ⟨.plus ⟨hne, hdigits⟩, fun hminus => by simp at hminus, hbounds⟩
    · next _ digits hne =>
      split at h
      · next hnegative =>
        obtain ⟨hdigits, rfl, hbounds⟩ := (hfrom true digits).1 h
        exact ⟨.minus ⟨hne, hdigits⟩, fun _ => hnegative, hbounds⟩
      · cases h
    · next hne _ _ _ _ =>
      obtain ⟨hdigits, rfl, hbounds⟩ := (hfrom false s).1 h
      have hall : AreDigits s := ⟨hne, hdigits⟩
      exact ⟨.plain hall, fun hminus => absurd hminus (hall.head?_ne (by decide)), hbounds⟩
  · rintro ⟨hdenotes, hminus, hbounds⟩
    cases hdenotes with
    | plain hdigits =>
      rw [integer_plain hdigits.ne_nil (hdigits.head?_ne (by decide))
        (hdigits.head?_ne (by decide)), hfrom]
      exact ⟨hdigits.isDigit, rfl, hbounds⟩
    | plus hdigits =>
      rw [integer_plus hdigits.ne_nil, hfrom]
      exact ⟨hdigits.isDigit, rfl, hbounds⟩
    | minus hdigits =>
      rw [integer_minus hdigits.ne_nil, if_pos (hminus rfl), hfrom]
      exact ⟨hdigits.isDigit, rfl, hbounds⟩

end

end Switchboard.Decimal
