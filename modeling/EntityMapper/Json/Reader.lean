import EntityMapper.Json.Basic
import EntityMapper.Number.Power
import EntityMapper.Text.Hex

/-!
# Reading JSON

The reader walks over the characters and returns what is left of them. It is strict: no comments, no
comma at the end, no leading zero, no half of a surrogate pair, no bare control character, and
containers may be nested only so deep.

A number without fraction and exponent is an integer if 64 bits hold it. Any other number is a
double, found in two steps: the digits that fit 64 bits are rounded to a double, and that is scaled
by a power of ten, which rounds again.
-/

namespace EntityMapper.Json

open Number

/-- Drops blanks: space, tab, line feed and carriage return. -/
def skipBlanks (s : List Char) : List Char :=
  s.dropWhile fun c => c = ' ' ∨ c = '\t' ∨ c = '\n' ∨ c = '\r'

/-! ## Strings -/

/-- Reads four hexadecimal digits. -/
def readCodeUnit? : List Char → Option (Nat × List Char)
  | a :: b :: c :: d :: rest => (Text.hexNumber? [a, b, c, d]).map (·, rest)
  | _ => none

/-- The character that a backslash and a letter stand for. -/
def shortEscape? (c : Char) : Option Char :=
  if c = '"' ∨ c = '\\' ∨ c = '/' then some c
  else if c = 'b' then some (Char.ofNat 0x08)
  else if c = 'f' then some (Char.ofNat 0x0C)
  else if c = 'n' then some '\n'
  else if c = 'r' then some '\r'
  else if c = 't' then some '\t'
  else none

/-- Reads what follows a backslash and a `u`: one code unit, or the two of a surrogate pair. -/
def readUnicodeEscape? (s : List Char) : Option (Char × List Char) := do
  let (unit, rest) ← readCodeUnit? s
  if 0xD800 ≤ unit ∧ unit < 0xDC00 then
    match rest with
    | '\\' :: 'u' :: rest =>
      let (second, rest) ← readCodeUnit? rest
      if 0xDC00 ≤ second ∧ second < 0xE000 then
        return (Char.ofNat (0x10000 + (unit - 0xD800) * 0x400 + (second - 0xDC00)), rest)
      else none
    | _ => none
  else if 0xDC00 ≤ unit ∧ unit < 0xE000 then none
  else return (Char.ofNat unit, rest)

/-- Reads a string whose opening quote is passed; `read` holds the characters so far, last first. -/
def readString (fuel : Nat) (read : List Char) (s : List Char) : Option (String × List Char) :=
  match fuel, s with
  | 0, _ => none
  | _, [] => none
  | fuel + 1, c :: rest =>
    if c = '"' then some (String.ofList read.reverse, rest)
    else if c = '\\' then
      match rest with
      | 'u' :: rest => do
        let (decoded, rest) ← readUnicodeEscape? rest
        readString fuel (decoded :: read) rest
      | e :: rest => do
        let decoded ← shortEscape? e
        readString fuel (decoded :: read) rest
      | [] => none
    else if c.toNat < 0x20 then none
    else readString fuel (c :: read) rest

/-! ## Numbers -/

/-- Whether a character is one of the ten digits. -/
def isDigit (c : Char) : Bool := decide ('0' ≤ c ∧ c ≤ '9')

/-- The digits at the front and what follows them. -/
def spanDigits (s : List Char) : List Nat × List Char :=
  ((s.takeWhile isDigit).map fun c => c.toNat - '0'.toNat, s.dropWhile isDigit)

/-- Appends digits to a significand while it fits 64 bits. Gives it and how many digits are left. -/
def appendDigits (significand : Nat) : List Nat → Nat × Nat
  | [] => (significand, 0)
  | d :: rest =>
    if 10 * significand + d < 2 ^ 64 then appendDigits (10 * significand + d) rest
    else (significand, rest.length + 1)

/-- The greatest power of ten that a double holds. -/
def greatestPower : Nat := 308

/-- The double nearest to a power of ten. -/
def powerOfTen (exponent : Nat) : Binary64 := Binary64.ofInt (10 ^ exponent)

/-- Scales a double that is not negative by a power of ten; fails if the result is too large. -/
def scale? (x : Binary64) (exponent : Int) : Option Binary64 :=
  if exponent.natAbs ≤ greatestPower then
    if 0 ≤ exponent then
      let scaled := x.scaleUp (powerOfTen exponent.natAbs)
      if scaled.isInfinite then none else some scaled
    else some (x.scaleDown (powerOfTen exponent.natAbs))
  else if x.magnitude = 0 then some x
  else if 0 ≤ exponent then none
  else scale? (x.scaleDown (powerOfTen greatestPower)) (exponent + greatestPower)
termination_by exponent.natAbs
decreasing_by simp only [greatestPower] at *; omega

/-- Reads the exponent of a number, whose letter is passed. -/
def readExponent? (s : List Char) : Option (Int × List Char) :=
  let (negative, rest) := match s with
    | '-' :: rest => (true, rest)
    | '+' :: rest => (false, rest)
    | rest => (false, rest)
  let (digits, rest) := spanDigits rest
  if digits.isEmpty then none
  else
    let magnitude : Int := (digits.foldl (fun n d => 10 * n + d) 0 : Nat)
    some (if negative then -magnitude else magnitude, rest)

/-- The double of a significand, an exponent and a sign. -/
def floatOfParts? (negative : Bool) (significand : Nat) (exponent : Int) : Option Json :=
  (scale? (Binary64.ofInt significand) exponent).map fun x => .float (if negative then x.neg else x)

/-- The number of digits without fraction and exponent. -/
def wholeNumber? (negative : Bool) (significand : Nat) (skipped : Nat) : Option Json :=
  if skipped ≠ 0 then floatOfParts? negative significand skipped
  else if !negative then some (.int significand)
  else if 0 < significand ∧ significand ≤ 2 ^ 63 then some (.int (-significand))
  else some (.float (Binary64.ofInt significand).neg)

/-- Reads a number. -/
def readNumber? (s : List Char) : Option (Json × List Char) := do
  let (negative, s) := match s with
    | '-' :: rest => (true, rest)
    | rest => (false, rest)
  let (whole, s) := spanDigits s
  if whole.isEmpty ∨ (whole.head? = some 0 ∧ 1 < whole.length) then none
  let (significand, skipped) := appendDigits 0 whole
  let (significand, exponent, s, isWhole) ← match s with
    | '.' :: rest =>
      let (fraction, rest) := spanDigits rest
      if fraction.isEmpty then none
      else
        let (significand, ignored) := appendDigits significand fraction
        some (significand, (skipped : Int) - (fraction.length - ignored : Nat), rest, false)
    | rest => some (significand, (skipped : Int), rest, true)
  match s with
  | 'e' :: rest | 'E' :: rest => do
    let (scaling, rest) ← readExponent? rest
    return (← floatOfParts? negative significand (exponent + scaling), rest)
  | rest =>
    if isWhole then return (← wholeNumber? negative significand skipped, rest)
    else return (← floatOfParts? negative significand exponent, rest)

/-! ## Values -/

mutual

/-- Reads a value; `depth` bounds how deep containers may be nested. -/
def readValue (fuel depth : Nat) (s : List Char) : Option (Json × List Char) :=
  match fuel with
  | 0 => none
  | fuel + 1 =>
    match skipBlanks s with
    | 'n' :: 'u' :: 'l' :: 'l' :: rest => some (.null, rest)
    | 't' :: 'r' :: 'u' :: 'e' :: rest => some (.bool true, rest)
    | 'f' :: 'a' :: 'l' :: 's' :: 'e' :: rest => some (.bool false, rest)
    | '"' :: rest => (readString (rest.length + 1) [] rest).map fun (s, rest) => (.str s, rest)
    | '[' :: rest =>
      if depth = 0 then none
      else match skipBlanks rest with
        | ']' :: rest => some (.arr [], rest)
        | rest => readItems fuel (depth - 1) [] rest
    | '\x7b' :: rest =>
      if depth = 0 then none
      else match skipBlanks rest with
        | '\x7d' :: rest => some (.obj [], rest)
        | rest => readFields fuel (depth - 1) [] rest
    | rest => readNumber? rest

/-- Reads the items that are left of an array; `read` holds the ones so far, last first. -/
def readItems (fuel depth : Nat) (read : List Json) (s : List Char) : Option (Json × List Char) :=
  match fuel with
  | 0 => none
  | fuel + 1 =>
    match readValue fuel depth s with
    | none => none
    | some (item, rest) =>
      match skipBlanks rest with
      | ',' :: rest => readItems fuel depth (item :: read) rest
      | ']' :: rest => some (.arr (item :: read).reverse, rest)
      | _ => none

/-- Reads the fields that are left of an object; `read` holds the ones so far, last first. -/
def readFields (fuel depth : Nat) (read : List (String × Json)) (s : List Char) :
    Option (Json × List Char) :=
  match fuel with
  | 0 => none
  | fuel + 1 =>
    match skipBlanks s with
    | '"' :: rest =>
      match readString (rest.length + 1) [] rest with
      | none => none
      | some (name, rest) =>
        match skipBlanks rest with
        | ':' :: rest =>
          match readValue fuel depth rest with
          | none => none
          | some (value, rest) =>
            match skipBlanks rest with
            | ',' :: rest => readFields fuel depth ((name, value) :: read) rest
            | '\x7d' :: rest => some (ofFields ((name, value) :: read).reverse, rest)
            | _ => none
        | _ => none
    | _ => none

end

/-- How deep containers may be nested in a text from outside. -/
def depthLimit : Nat := 127

/-- Reads a whole text that nests containers at most `depth` deep. -/
def readNested? (depth : Nat) (s : String) : Option Json :=
  let chars := s.toList
  match readValue (2 * chars.length + 2) depth chars with
  | some (value, rest) => if (skipBlanks rest).isEmpty then some value else none
  | none => none

/-- Reads a whole text. -/
def read? (s : String) : Option Json := readNested? depthLimit s

end EntityMapper.Json
