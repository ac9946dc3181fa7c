import EntityMapper.Number.Power

/-!
# Binary floating-point formats

A number of an interchange format is a bit pattern. Every finite one is a whole multiple of the
least positive one, so this file measures magnitudes in that **unit**: `units` reads a pattern as a
natural number and `round` goes back from a ratio of natural numbers, to the nearest pattern and
with ties to the even one. No step is approximate.
-/

namespace EntityMapper.Number

/-- An interchange format: how many bits hold the fraction and how many the exponent. -/
structure Format where
  fractionBits : Nat
  exponentBits : Nat
deriving DecidableEq, Repr

namespace Format

/-- The format of eight bytes. -/
def double : Format := ⟨52, 11⟩

/-- The format of four bytes. -/
def single : Format := ⟨23, 8⟩

/-- The pattern of positive infinity; every greater magnitude is not a number. -/
def infinity (f : Format) : Nat := (2 ^ f.exponentBits - 1) * 2 ^ f.fractionBits

/-- The pattern that holds the sign bit alone. -/
def signBit (f : Format) : Nat := 2 ^ (f.fractionBits + f.exponentBits)

/-- How many units make the number one, as a power of two. -/
def oneExponent (f : Format) : Nat := 2 ^ (f.exponentBits - 1) + f.fractionBits - 2

/-- The magnitude of a finite pattern without its sign bit, in units. -/
def units (f : Format) (magnitude : Nat) : Nat :=
  let exponent := magnitude / 2 ^ f.fractionBits
  let fraction := magnitude % 2 ^ f.fractionBits
  if exponent = 0 then fraction else (2 ^ f.fractionBits + fraction) * 2 ^ (exponent - 1)

/-- The quotient of two natural numbers, rounded to the nearest one and a tie to the even one. -/
def divideToEven (num den : Nat) : Nat :=
  let q := num / den
  let r := num % den
  if 2 * r > den ∨ (2 * r = den ∧ q % 2 = 1) then q + 1 else q

/-- The pattern nearest to `num / den` units, a tie going to the even pattern; a ratio beyond the
greatest finite number gives infinity.

The patterns of one exponent are evenly spaced by a power of two of units, and a mantissa that
rounds up to the next power of two carries into the exponent by itself. -/
def round (f : Format) (num den : Nat) : Nat :=
  let shift := Nat.log2 (num / den) - f.fractionBits
  let mantissa := divideToEven num (den * 2 ^ shift)
  min (shift * 2 ^ f.fractionBits + mantissa) f.infinity

end Format

end EntityMapper.Number
