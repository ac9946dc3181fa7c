import EntityMapper.Text.Hex

/-!
# Universally unique identifiers

Sixteen bytes. They are written in lower case with hyphens in four places, and read in that form,
without hyphens, in braces or after `urn:uuid:`; the last two only with hyphens.
-/

namespace EntityMapper

/-- A universally unique identifier. -/
structure Uuid where
  /-- The bytes, most significant first. -/
  bytes : List UInt8
  /-- There are sixteen of them. -/
  length_bytes : bytes.length = 16
deriving DecidableEq

namespace Uuid

/-- The identifier of a list of bytes, if there are sixteen. -/
def ofBytes? (bytes : List UInt8) : Option Uuid :=
  if h : bytes.length = 16 then some ⟨bytes, h⟩ else none

/-- The 32 digits. -/
def digits (u : Uuid) : List Char := Text.hexOfBytes u.bytes

/-- Cuts the digits into the five groups and puts hyphens between them. -/
def hyphenate (digits : List Char) : List Char :=
  digits.take 8 ++ '-' :: (digits.drop 8).take 4 ++ '-' :: (digits.drop 12).take 4 ++
    '-' :: (digits.drop 16).take 4 ++ '-' :: digits.drop 20

/-- The text with hyphens, in lower case. -/
def text (u : Uuid) : String := String.ofList (hyphenate u.digits)

/-- Reads digits in five groups with hyphens between them. -/
def readHyphenated? (s : List Char) : Option Uuid :=
  let digits := s.take 8 ++ (s.drop 9).take 4 ++ (s.drop 14).take 4 ++ (s.drop 19).take 4
    ++ s.drop 24
  if hyphenate digits = s then (Text.bytesOfHex? digits).bind ofBytes? else none

/-- Reads an identifier in any of its four forms. -/
def read? (s : String) : Option Uuid :=
  match s.toList with
  | 'u' :: 'r' :: 'n' :: ':' :: 'u' :: 'u' :: 'i' :: 'd' :: ':' :: rest => readHyphenated? rest
  | '\x7b' :: rest => if rest.getLast? = some '\x7d' then readHyphenated? rest.dropLast else none
  | chars =>
    if chars.length = 32 then (Text.bytesOfHex? chars).bind ofBytes? else readHyphenated? chars

end Uuid

end EntityMapper
