/-!
# Hexadecimal digits

Bytes are written as two lower-case digits each and read in either case; reading what was written
gives the bytes back.
-/

namespace EntityMapper.Text

/-- The lower-case digit of a number below sixteen. -/
def hexDigit (n : Nat) : Char :=
  if n < 10 then Char.ofNat (n + 0x30) else Char.ofNat (n + 0x57)

/-- The number a digit of either case stands for. -/
def hexValue? (c : Char) : Option Nat :=
  if '0' ≤ c ∧ c ≤ '9' then some (c.toNat - 0x30)
  else if 'a' ≤ c ∧ c ≤ 'f' then some (c.toNat - 0x57)
  else if 'A' ≤ c ∧ c ≤ 'F' then some (c.toNat - 0x37)
  else none

/-- Two digits for every byte. -/
def hexOfBytes : List UInt8 → List Char
  | [] => []
  | b :: rest => hexDigit (b.toNat / 16) :: hexDigit (b.toNat % 16) :: hexOfBytes rest

/-- The bytes that pairs of digits stand for; fails on an odd count and on any other character. -/
def bytesOfHex? : List Char → Option (List UInt8)
  | [] => some []
  | [_] => none
  | high :: low :: rest => do
    let h ← hexValue? high
    let l ← hexValue? low
    return UInt8.ofNat (16 * h + l) :: (← bytesOfHex? rest)

/-- The number that a run of digits stands for, if all are digits. -/
def hexNumber? (digits : List Char) : Option Nat :=
  digits.foldlM (fun n c => (hexValue? c).map (16 * n + ·)) 0

/-- A number in lower-case digits, as few as hold it. -/
def hexOfNumber (n : Nat) : List Char := Nat.toDigits 16 n

end EntityMapper.Text
