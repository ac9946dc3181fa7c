import EntityMapper.Number.Format

/-!
# Double-precision numbers

A double is its 64 bits. `reading` says which number they stand for, as a whole count of units (see
`EntityMapper.Number.Format`), and comparison, conversion and scaling are defined through that exact
reading. So a statement about doubles is a statement about integers.
-/

namespace EntityMapper.Number

/-- A double-precision number, held as its bit pattern. -/
structure Binary64 where
  /-- Sign, exponent and fraction, from the most significant bit down. -/
  bits : UInt64
deriving DecidableEq, Repr, Inhabited

namespace Binary64

/-- What a bit pattern stands for. -/
inductive Reading where
  | nan
  | negativeInfinity
  /-- A number, counted in units of the least positive double. -/
  | finite (units : Int)
  | positiveInfinity
deriving DecidableEq, Repr

/-- Whether the sign bit is set. -/
def isNegative (x : Binary64) : Bool := decide (Format.double.signBit ≤ x.bits.toNat)

/-- The bits without the sign. -/
def magnitude (x : Binary64) : Nat := x.bits.toNat % Format.double.signBit

/-- The double of a sign and a magnitude. -/
def ofMagnitude (negative : Bool) (magnitude : Nat) : Binary64 :=
  ⟨UInt64.ofNat ((if negative then Format.double.signBit else 0) + magnitude)⟩

/-- Whether the pattern is not a number. -/
def isNaN (x : Binary64) : Bool := decide (Format.double.infinity < x.magnitude)

/-- Whether the pattern is an infinity of either sign. -/
def isInfinite (x : Binary64) : Bool := decide (x.magnitude = Format.double.infinity)

/-- Whether the pattern is a number and no infinity. -/
def isFinite (x : Binary64) : Bool := decide (x.magnitude < Format.double.infinity)

/-- The number a pattern stands for. -/
def reading (x : Binary64) : Reading :=
  if x.isNaN then .nan
  else if x.isInfinite then if x.isNegative then .negativeInfinity else .positiveInfinity
  else
    let units : Int := Format.double.units x.magnitude
    .finite (if x.isNegative then -units else units)

/-- The order of numbers, infinities included; what is not a number is below and above nothing. -/
def Reading.le : Reading → Reading → Bool
  | .nan, _ => false
  | _, .nan => false
  | .negativeInfinity, _ => true
  | _, .positiveInfinity => true
  | .finite a, .finite b => decide (a ≤ b)
  | _, _ => false

/-- `x.le y` when both are numbers and the first is at most the second. -/
def le (x y : Binary64) : Bool := x.reading.le y.reading

/-- Numeric equality: the two zeros are equal and what is not a number equals nothing. -/
protected def beq (x y : Binary64) : Bool := x.le y && y.le x

instance : BEq Binary64 := ⟨Binary64.beq⟩

/-- The double nearest to an integer. -/
def ofInt (n : Int) : Binary64 :=
  ofMagnitude (decide (n < 0))
    (Format.double.round (n.natAbs * 2 ^ Format.double.oneExponent) 1)

/-- The same number with the other sign. -/
def neg (x : Binary64) : Binary64 := ofMagnitude (!x.isNegative) x.magnitude

/-- Whether a finite number is whole. -/
def isWhole (x : Binary64) : Bool :=
  x.isFinite && decide (Format.double.units x.magnitude % 2 ^ Format.double.oneExponent = 0)

/-- The integer a finite number is cut to, the fraction dropped. -/
def truncate (x : Binary64) : Int :=
  let whole : Int := (Format.double.units x.magnitude / 2 ^ Format.double.oneExponent : Nat)
  if x.isNegative then -whole else whole

/-- The nearest 64-bit integer after the fraction is dropped: what is too large or too small gives
the nearest end of the range, and what is not a number gives zero. -/
def toInt64Saturating (x : Binary64) : Int64 :=
  match x.reading with
  | .nan => 0
  | .negativeInfinity => Int64.minValue
  | .positiveInfinity => Int64.maxValue
  | .finite _ =>
    if x.truncate < Int64.minValue.toInt then Int64.minValue
    else if Int64.maxValue.toInt < x.truncate then Int64.maxValue
    else Int64.ofInt x.truncate

/-- The product of two non-negative finite numbers, rounded. -/
def scaleUp (x y : Binary64) : Binary64 :=
  ofMagnitude false (Format.double.round
    (Format.double.units x.magnitude * Format.double.units y.magnitude)
    (2 ^ Format.double.oneExponent))

/-- The quotient of a non-negative finite number by a positive one, rounded. -/
def scaleDown (x y : Binary64) : Binary64 :=
  ofMagnitude false (Format.double.round
    (Format.double.units x.magnitude * 2 ^ Format.double.oneExponent)
    (Format.double.units y.magnitude))

/-! ## Single precision

A single-precision number exists only on the wire and in conversions, so it is its 32 bits. -/

/-- The bits of the single-precision number nearest to a double. What is not a number stays so: it
keeps its sign and the leading bits of its payload, and becomes quiet. -/
def toSingleBits (x : Binary64) : UInt32 :=
  let sign := if x.isNegative then Format.single.signBit else 0
  let drop := Format.double.fractionBits - Format.single.fractionBits
  let magnitude :=
    if x.isNaN then
      let payload := x.magnitude % 2 ^ Format.double.fractionBits / 2 ^ drop
      Format.single.infinity + (payload ||| 2 ^ (Format.single.fractionBits - 1))
    else if x.isInfinite then Format.single.infinity
    else Format.single.round
      (Format.double.units x.magnitude * 2 ^ Format.single.oneExponent)
      (2 ^ Format.double.oneExponent)
  UInt32.ofNat (sign + magnitude)

/-- The double equal to a single-precision number; what is not a number keeps its sign and payload
and becomes quiet. -/
def ofSingleBits (bits : UInt32) : Binary64 :=
  let negative := decide (Format.single.signBit ≤ bits.toNat)
  let magnitude := bits.toNat % Format.single.signBit
  let gain := Format.double.fractionBits - Format.single.fractionBits
  if Format.single.infinity < magnitude then
    let payload := magnitude % 2 ^ Format.single.fractionBits * 2 ^ gain
    ofMagnitude negative
      (Format.double.infinity + (payload ||| 2 ^ (Format.double.fractionBits - 1)))
  else if magnitude = Format.single.infinity then ofMagnitude negative Format.double.infinity
  else ofMagnitude negative (Format.double.round
    (Format.single.units magnitude * 2 ^ Format.double.oneExponent)
    (2 ^ Format.single.oneExponent))

end Binary64

end EntityMapper.Number
