import EntityMapper.Number.Binary64

/-!
# The fewest digits that read back

Every double stands for all the reals that round to it: those between the midpoints to its two
neighbours, the midpoints included exactly if its pattern is even. `shortest` looks for the coarsest
decimal grid with a point in that interval and takes, of the points there, the one nearest to the
number. If any point of a grid lies in the interval then so does one of the two that enclose the
number, so two candidates per grid are enough.
-/

namespace EntityMapper.Number

/-- A positive decimal number `significand * 10 ^ exponent`. -/
structure Decimal where
  /-- The digits, read as one number. -/
  significand : Nat
  /-- The power of ten that the last digit counts. -/
  exponent : Int
deriving DecidableEq, Repr

namespace Decimal

/-- The digits, most significant first. -/
def digits (d : Decimal) : List Char := Nat.toDigits 10 d.significand

/-- The power of ten that the first digit counts. -/
def leadingExponent (d : Decimal) : Int := d.exponent + d.digits.length - 1

/-- The same number without zeros at the end of its digits. -/
def trimmed (d : Decimal) : Decimal :=
  if d.significand ≠ 0 ∧ d.significand % 10 = 0 then
    trimmed ⟨d.significand / 10, d.exponent + 1⟩
  else d
termination_by d.significand
decreasing_by omega

end Decimal

/-- The reals that round to one finite double that is not zero, all counted in half units. -/
structure RoundingInterval where
  /-- The midpoint to the neighbour below. -/
  low : Nat
  value : Nat
  /-- The midpoint to the neighbour above. -/
  high : Nat
  /-- Whether the midpoints round to the number. -/
  closed : Bool

namespace RoundingInterval

/-- The interval around a magnitude that is not zero. -/
def ofMagnitude (magnitude : Nat) : RoundingInterval where
  low := Format.double.units (magnitude - 1) + Format.double.units magnitude
  value := 2 * Format.double.units magnitude
  high := Format.double.units magnitude + Format.double.units (magnitude + 1)
  closed := magnitude % 2 == 0

/-- How many half units make the number one. -/
def one : Nat := 2 ^ (Format.double.oneExponent + 1)

/-- The power of ten of the number's first decimal digit. -/
def leadingExponent (i : RoundingInterval) : Int :=
  if one ≤ i.value then ((Nat.toDigits 10 (i.value / one)).length : Int) - 1
  else
    let places := (Nat.toDigits 10 (one / i.value)).length
    ((Nat.toDigits 10 (i.value * 10 ^ places / one)).length : Int) - 1 - places

/-- Whether `num / den` half units lie in the interval. -/
def contains (i : RoundingInterval) (num den : Nat) : Bool :=
  if i.closed then decide (i.low * den ≤ num ∧ num ≤ i.high * den)
  else decide (i.low * den < num ∧ num < i.high * den)

/-- The point of the grid of whole multiples of `10 ^ exponent` that lies in the interval and is
nearest to the number, the even one of two equally near. -/
def gridPoint? (i : RoundingInterval) (exponent : Int) : Option Decimal :=
  let step := 10 ^ exponent.toNat * one
  let den := 10 ^ (-exponent).toNat
  let below := i.value * den / step
  let above := below + 1
  let toBelow := i.value * den - below * step
  let toAbove := above * step - i.value * den
  match i.contains (below * step) den, i.contains (above * step) den with
  | true, true =>
    if toBelow < toAbove ∨ (toBelow = toAbove ∧ below % 2 = 0) then some ⟨below, exponent⟩
    else some ⟨above, exponent⟩
  | true, false => some ⟨below, exponent⟩
  | false, true => some ⟨above, exponent⟩
  | false, false => none

end RoundingInterval

/-- The shortest decimal that reads back as a magnitude that is not zero; seventeen digits always
do. A grid point above the number may be the next power of ten, whose zeros are trimmed. -/
def shortest (magnitude : Nat) : Decimal :=
  let interval := RoundingInterval.ofMagnitude magnitude
  let leading := interval.leadingExponent
  let grids := (List.range 17).map fun (n : Nat) => leading - (n : Int)
  ((grids.findSome? interval.gridPoint?).getD ⟨0, 0⟩).trimmed

end EntityMapper.Number
