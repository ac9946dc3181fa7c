import EntityMapper.Number.Power
import EntityMapper.Text.Percent
import EntityMapper.Url.Domain

/-!
# Hosts

A host is a domain, an address of version 4, or an address of version 6 in brackets. A domain whose
last label looks like a number has to be an address of version 4. Where a scheme has rules of its
own, a host is any text without the characters that delimit the parts of an address.
-/

namespace EntityMapper.Url

open Text

/-! ## Version 4 -/

/-- The number that some digits stand for, if all are digits of the base. -/
def numberInBase? (base : Nat) (digits : List Char) : Option Nat :=
  digits.foldlM (fun n c => (hexValue? c).bind fun d =>
    if d < base then some (base * n + d) else none) 0

/-- The number of a part of an address: hexadecimal after `0x`, octal after a zero, else decimal. -/
def addressPart? : List Char → Option Nat
  | [] => none
  | '0' :: 'x' :: digits | '0' :: 'X' :: digits => numberInBase? 16 digits
  | '0' :: digits => numberInBase? 8 digits
  | digits => numberInBase? 10 digits

/-- The parts without an empty one at the end. -/
def withoutEmptyLast (parts : List (List Char)) : List (List Char) :=
  if parts.getLast? = some [] then parts.dropLast else parts

/-- Whether the last part looks like a number, so that the host has to be an address. -/
def endsInNumber (parts : List (List Char)) : Bool :=
  match (withoutEmptyLast parts).getLast? with
  | none => false
  | some last => (!last.isEmpty && last.all Char.isDigit) || (addressPart? last).isSome

/-- Whether the parts form an address of version 4: at most four numbers, all but the last one
bytes, and the last one of as many bytes as are left. -/
def isIpv4 (parts : List (List Char)) : Bool :=
  let parts := withoutEmptyLast parts
  match parts.mapM addressPart? with
  | none => false
  | some numbers =>
    decide (numbers.length ≤ 4) && numbers.dropLast.all (· < 256) &&
      numbers.getLast?.any (· < 256 ^ (5 - numbers.length))

/-! ## Version 6 -/

/-- Whether some characters are a byte in decimal digits without a leading zero. -/
def isDecimalByte (digits : List Char) : Bool :=
  (digits.length = 1 || digits.head? != some '0') &&
    (numberInBase? 10 digits).any (· < 256) && !digits.isEmpty

/-- Whether some characters are four bytes with dots between them. -/
def isDottedBytes (s : List Char) : Bool :=
  let parts := splitOnChar '.' s
  parts.length == 4 && parts.all isDecimalByte

/-- Whether some characters are a group of one to four hexadecimal digits. -/
def isHexGroup (s : List Char) : Bool :=
  !s.isEmpty && s.length ≤ 4 && s.all fun c => (hexValue? c).isSome

/-- How many groups of 16 bits some parts make up, of which the last may be an address of version 4
that takes the place of two. -/
def groupCount? (mayEndDotted : Bool) : List (List Char) → Option Nat
  | [] => some 0
  | [last] =>
    if isHexGroup last then some 1 else if mayEndDotted && isDottedBytes last then some 2 else none
  | group :: rest => if isHexGroup group then (groupCount? mayEndDotted rest).map (· + 1) else none

/-- The parts before and after the first double colon. -/
def splitAtGap : List Char → Option (List Char × List Char)
  | ':' :: ':' :: rest => some ([], rest)
  | c :: rest => (splitAtGap rest).map fun (before, after) => (c :: before, after)
  | [] => none

/-- How many groups stand on one side of a gap. -/
def sideCount? (mayEndDotted : Bool) (side : List Char) : Option Nat :=
  if side.isEmpty then some 0 else groupCount? mayEndDotted (splitOnChar ':' side)

/-- Whether some characters are an address of version 6: eight groups, or fewer of them around one
gap that stands for the rest. -/
def isIpv6 (s : List Char) : Bool :=
  match splitAtGap s with
  | none => groupCount? true (splitOnChar ':' s) == some 8
  | some (before, after) =>
    match sideCount? false before, sideCount? true after with
    | some a, some b => a + b ≤ 7
    | _, _ => false

/-! ## Hosts of addresses -/

/-- What a host in brackets holds, if it is one; fails if the closing bracket is missing. -/
def bracketed? : List Char → Option (Option (List Char))
  | '[' :: rest => if rest.getLast? = some ']' then some (some rest.dropLast) else none
  | _ => some none

/-- Whether some characters are the host of a scheme that all programs know. -/
def isHost (s : List Char) : Bool :=
  match bracketed? s with
  | none => false
  | some (some inside) => isIpv6 inside
  | some none =>
    match percentDecode? s with
    | none => false
    | some decoded =>
      match domainLabels? decoded.toList with
      | none => false
      | some labels => !endsInNumber labels || isIpv4 labels

/-- The characters that no host of an unknown scheme holds. -/
def isHostDelimiter (c : Char) : Bool :=
  ['\x00', '\t', '\n', '\r', ' ', '#', '/', ':', '<', '>', '?', '@', '[', '\\', ']', '^',
    '|'].contains c

/-- Whether some characters, possibly none, are the host of an unknown scheme. -/
def isOpaqueHost (s : List Char) : Bool :=
  match bracketed? s with
  | none => false
  | some (some inside) => isIpv6 inside
  | some none => !s.any isHostDelimiter

end EntityMapper.Url
