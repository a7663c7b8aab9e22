import Switchboard.Text.LetterTable
import Switchboard.Text.LowerCase
import Switchboard.Text.NumeralTable

/-!
# Letters and numerals

The two properties of Unicode that say what may stand in a name.
-/

namespace Switchboard.Text

/-- A letter of any script. -/
def isLetter (c : Char) : Bool := c.isAlpha || inRanges LetterTable.ranges c.toNat

/-- A letter or a numeral of any script. -/
def isAlphanumeric (c : Char) : Bool :=
  isLetter c || c.isDigit || inRanges NumeralTable.ranges c.toNat

/-- Every character that core's ASCII test knows is a letter or a numeral here. -/
theorem isAlphanumeric_of_isAlphanum {c : Char} (h : c.isAlphanum = true) :
    isAlphanumeric c = true := by
  simp only [Char.isAlphanum, Bool.or_eq_true] at h
  rcases h with h | h <;> simp [isAlphanumeric, isLetter, h]

end Switchboard.Text
