import EntityMapper.Text.Hex

/-!
# Sets of code points

A property of characters is a set of code points, held as ranges. Small sets are written out; the
large ones are read from lines of hexadecimal ranges such as `41-5a aa b5`.
-/

namespace EntityMapper.Text

/-- A set of code points, as ranges that include both ends. -/
structure CodePoints where
  /-- First and last code point of each range. -/
  ranges : List (Nat × Nat)
deriving Repr

namespace CodePoints

/-- Whether a range holds the code point. -/
def containsCode (set : CodePoints) (n : Nat) : Bool :=
  set.ranges.any fun (first, last) => decide (first ≤ n ∧ n ≤ last)

/-- Whether the set holds a character. -/
def contains (set : CodePoints) (c : Char) : Bool := set.containsCode c.toNat

/-- Reads the rest of a line: `current` is the number read so far and `first` the start of a range
whose dash is passed. -/
def readRanges (first : Option Nat) (current : Nat) : List Char → List (Nat × Nat)
  | [] => [(first.getD current, current)]
  | c :: rest =>
    if c = ' ' then (first.getD current, current) :: readRanges none 0 rest
    else if c = '-' then readRanges (some current) 0 rest
    else readRanges first (16 * current + (hexValue? c).getD 0) rest

/-- The set written on lines of hexadecimal ranges. -/
def ofLines (lines : List String) : CodePoints :=
  ⟨lines.flatMap fun line => readRanges none 0 line.toList⟩

end CodePoints

end EntityMapper.Text
