import EntityMapper.Number.Shortest

/-!
# The text of a number

A double is always written with the fewest digits that read back. Where the decimal point goes, and
when an exponent is written instead, is a `Layout`; the module that writes an output says which one
it uses.
-/

namespace EntityMapper.Number

/-- How the digits of a number are laid out. -/
structure Layout where
  /-- The exponents of the first digit, from the first bound up to and without the second, that are
  written with a decimal point and no exponent; `none` when all are. -/
  positional : Option (Int × Int)
  /-- Whether a whole number written positionally ends in a point and a zero. -/
  keepsPoint : Bool
  /-- Whether a positive exponent has a sign. -/
  signsExponent : Bool
deriving Repr

namespace Layout

/-- Never an exponent, and no point in a whole number. -/
def plain : Layout := ⟨none, false, false⟩

/-- Whole numbers keep their point; from 10^16 up and below 10^-4 there is an exponent. -/
def literal : Layout := ⟨some (-4, 16), true, false⟩

/-- Whole numbers keep their point; from 10^16 up and below 10^-5 there is a signed exponent. -/
def json : Layout := ⟨some (-5, 16), true, true⟩

/-- Whether numbers with this exponent of the first digit are written without an exponent. -/
def isPositional (l : Layout) (leading : Int) : Bool :=
  match l.positional with
  | none => true
  | some (low, high) => decide (low ≤ leading ∧ leading < high)

/-- Digits with a decimal point at its place. -/
def positionalText (l : Layout) (digits : List Char) (leading : Int) : List Char :=
  if leading < 0 then '0' :: '.' :: List.replicate (-leading - 1).toNat '0' ++ digits
  else
    let wholeLength := leading.toNat + 1
    if digits.length ≤ wholeLength then
      digits ++ List.replicate (wholeLength - digits.length) '0' ++
        (if l.keepsPoint then ['.', '0'] else [])
    else digits.take wholeLength ++ '.' :: digits.drop wholeLength

/-- Digits with the point after the first one and an exponent. -/
def exponentText (l : Layout) (digits : List Char) (leading : Int) : List Char :=
  let fraction := digits.drop 1
  let sign := if leading < 0 then ['-'] else if l.signsExponent then ['+'] else []
  digits.take 1 ++ (if fraction.isEmpty then [] else '.' :: fraction) ++
    'e' :: sign ++ Nat.toDigits 10 leading.natAbs

/-- The text of a magnitude that is not zero. -/
def magnitudeText (l : Layout) (magnitude : Nat) : List Char :=
  let decimal := shortest magnitude
  let leading := decimal.leadingExponent
  if l.isPositional leading then l.positionalText decimal.digits leading
  else l.exponentText decimal.digits leading

end Layout

namespace Binary64

/-- The text of a double, with the texts `NaN`, `inf` and `-inf` for what is no finite number. -/
def text (l : Layout) (x : Binary64) : String :=
  if x.isNaN then "NaN"
  else
    let sign := if x.isNegative then ['-'] else []
    let body :=
      if x.isInfinite then ['i', 'n', 'f']
      else if x.magnitude = 0 then l.positionalText ['0'] 0
      else l.magnitudeText x.magnitude
    String.ofList (sign ++ body)

end Binary64

end EntityMapper.Number
