import Switchboard.Binary64

/-!
# The shortest decimal that reads back

The real numbers that round to a given number of the format form an interval around it. Of the
decimals in this interval, `shortest` gives one with the fewest digits, and of those the nearest.

The grids of multiples of `10 ^ k` are nested, so the search goes from the coarsest grid to the
finer ones and stops at the first that has a point in the interval. If a grid has a point there,
one of the number's two neighbours on that grid is such a point.
-/

namespace Switchboard.Binary64

/-- The ends of the interval that rounds to `mantissa * 2 ^ exponent`, in units of a quarter of
`2 ^ exponent`. Below a power of two the numbers lie half as far apart, so the lower end is nearer
there. -/
def ends (mantissa : Nat) (exponent : Int) : Nat × Nat :=
  let below := if mantissa = leastNormal ∧ exponent > leastExponent then 1 else 2
  (4 * mantissa - below, 4 * mantissa + 2)

/-- Whether `d * 10 ^ k` lies in the interval of a number; an even mantissa owns both ends. -/
def roundsTo (mantissa : Nat) (exponent : Int) (d : Nat) (k : Int) : Bool :=
  let (low, high) := ends mantissa exponent
  let point := d * Nat.pow 10 k.toNat * Nat.pow 2 (2 - exponent).toNat
  let unit := Nat.pow 10 (-k).toNat * Nat.pow 2 (exponent - 2).toNat
  if mantissa % 2 = 0 then low * unit ≤ point && point ≤ high * unit
  else low * unit < point && point < high * unit

/-- The point of the grid `10 ^ k` nearest to a number, if it reads back as the number. -/
def gridPoint? (mantissa : Nat) (exponent k : Int) : Option Nat :=
  let num := mantissa * Nat.pow 2 exponent.toNat * Nat.pow 10 (-k).toNat
  let den := Nat.pow 2 (-exponent).toNat * Nat.pow 10 k.toNat
  let below := num / den
  match roundsTo mantissa exponent below k, roundsTo mantissa exponent (below + 1) k with
  | true, true => some (divNearestEven num den)
  | true, false => some below
  | false, true => some (below + 1)
  | false, false => none

/-- Looks for a grid point on the `steps` grids from `10 ^ k` downwards. -/
def searchFrom (mantissa : Nat) (exponent : Int) : Nat → Int → Nat × Int
  | 0, k => (0, k)
  | steps + 1, k =>
    match gridPoint? mantissa exponent k with
    | some d => (d, k)
    | none => searchFrom mantissa exponent steps (k - 1)

/-- Digits `d` and an exponent `k` such that `d * 10 ^ k` reads back as the positive number
`mantissa * 2 ^ exponent`. The grids from `10 ^ 309` to `10 ^ -324` are enough for the format. -/
def shortest (mantissa : Nat) (exponent : Int) : Nat × Int :=
  searchFrom mantissa exponent 634 309

example : shortest 7205759403792794 (-56) = (1, -1) := by decide +kernel

example : shortest 1 (-1074) = (5, -324) := by decide +kernel

end Switchboard.Binary64
