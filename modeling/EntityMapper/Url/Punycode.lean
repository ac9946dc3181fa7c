import EntityMapper.Text.CodePoints

/-!
# Punycode

A label with characters beyond ASCII is written with its ASCII characters, a hyphen, and the other
characters as distances in base 36: how far to count through code points and places to the next
insertion. Where a distance ends is told by thresholds that adapt to the distances so far.
-/

namespace EntityMapper.Url.Punycode

/-- The value of a digit: 26 letters, then the ten digits. -/
def digitValue? (c : Char) : Option Nat :=
  if c.isLower then some (c.toNat - 'a'.toNat)
  else if c.isUpper then some (c.toNat - 'A'.toNat)
  else if c.isDigit then some (c.toNat - '0'.toNat + 26)
  else none

/-- The least value of a digit, `position` digits in, after which more digits follow. -/
def threshold (bias position : Nat) : Nat := min 26 (max 1 (36 * (position + 1) - bias))

/-- Divides a distance until it is small, and adds 36 for every division. -/
def shrink (delta : Nat) : Nat :=
  if delta > 455 then 36 + shrink (delta / 35) else 36 * delta / (delta + 38)
termination_by delta
decreasing_by omega

/-- The bias after a distance that made the label so long. -/
def adapted (delta length : Nat) (isFirst : Bool) : Nat :=
  let halved := if isFirst then delta / 700 else delta / 2
  shrink (halved + halved / length)

/-- Where a decoder is. -/
structure Decoder where
  label : List Char
  /-- The code point that is inserted next, were it not for the distance. -/
  code : Nat := 0x80
  /-- The place at which the last insertion ended. -/
  place : Nat := 0
  /-- The bias of the thresholds. -/
  bias : Nat := 72
  /-- The distance so far, counted from the last insertion. -/
  distance : Nat := 0
  /-- What the next digit counts. -/
  weight : Nat := 1
  /-- How many digits of the distance are passed. -/
  position : Nat := 0

/-- Whether the decoder is between two distances. -/
def Decoder.isIdle (d : Decoder) : Bool := d.position == 0

/-- Inserts the character that a finished distance stands for. -/
def Decoder.insert? (d : Decoder) (isFirst : Bool) : Option Decoder := do
  let length := d.label.length + 1
  let total := d.place + d.distance
  let code := d.code + total / length
  if !code.isValidChar then none
  let place := total % length
  return {
    label := d.label.take place ++ Char.ofNat code :: d.label.drop place
    code
    place := place + 1
    bias := adapted d.distance length isFirst }

/-- Takes one digit. -/
def Decoder.step? (basicCount : Nat) (d : Decoder) (c : Char) : Option Decoder := do
  let digit ← digitValue? c
  let grown := { d with distance := d.distance + digit * d.weight }
  let least := threshold d.bias d.position
  if digit < least then grown.insert? (d.label.length == basicCount)
  else return { grown with weight := d.weight * (36 - least), position := d.position + 1 }

/-- The label that is written as some characters. -/
def decode? (s : List Char) : Option (List Char) := do
  let digits := (s.reverse.takeWhile (· != '-')).reverse
  let basic := s.take (s.length - digits.length - 1)
  if basic.any fun c => c.toNat ≥ 0x80 then none
  let done ← digits.foldlM (Decoder.step? basic.length) { label := basic }
  if done.isIdle then return done.label else none

end EntityMapper.Url.Punycode
