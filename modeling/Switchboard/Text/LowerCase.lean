import Switchboard.Text.CaseTable

/-!
# Lower case

The full lower-case mapping of Unicode, with its one rule that looks at the neighbours: a capital
sigma at the end of a word becomes the final form `ς`, and `σ` anywhere else. A word ends where no
letter with a case follows, case-ignorable characters being passed over.
-/

namespace Switchboard.Text

open CaseTable

/-- Membership in a list of ranges. -/
def inRanges (ranges : List (Nat × Nat)) (n : Nat) : Bool :=
  ranges.any fun (first, last) => first ≤ n && n ≤ last

/-- The one-character lower-case form of a code point, itself when it has none. -/
def lowerCode (n : Nat) : Nat :=
  let isIn := fun (first, last, step, _) => first ≤ n && n ≤ last && (n - first) % step == 0
  match lowered.find? isIn with
  | some (_, _, _, offset) => (n + offset).toNat
  | none => n

/-- The lower-case form of a character away from its context. Only `İ` has two characters. -/
def lowerChar (c : Char) : List Char :=
  if c == 'İ' then ['i', '\u0307'] else [Char.ofNat (lowerCode c.toNat)]

/-- The first character that is not case-ignorable exists and has a case. -/
def meetsCased (s : List Char) : Bool :=
  match s.dropWhile fun c => inRanges caseIgnorable c.toNat with
  | c :: _ => inRanges cased c.toNat
  | [] => false

/-- Lowers a text whose characters before it, nearest first, are `before`. -/
def lowerAfter (before : List Char) : List Char → List Char
  | [] => []
  | c :: rest =>
    let form :=
      if c == 'Σ' then
        [if meetsCased before && !meetsCased rest then 'ς' else 'σ']
      else lowerChar c
    form ++ lowerAfter (c :: before) rest

/-- The lower-case form of a text. -/
def lower (s : List Char) : List Char := lowerAfter [] s

/-- `lower`, on strings. -/
def lowerString (s : String) : String := String.ofList (lower s.toList)

/-- The lower-case form by the twenty-six letters of ASCII alone; all else stays. -/
def lowerAscii (c : Char) : Char :=
  if 'A' ≤ c ∧ c ≤ 'Z' then Char.ofNat (c.toNat + 32) else c

/-- Equality of texts up to the case of ASCII letters. -/
def eqIgnoringAsciiCase (a b : List Char) : Bool :=
  a.map lowerAscii == b.map lowerAscii

example : lower "ΑΣ Σ'Σ.".toList = "ας σ'ς.".toList := by decide +kernel

example : lower "İX".toList = "i\u0307x".toList := by decide +kernel

end Switchboard.Text
