import EntityMapper.Number.Power

/-!
# Numbers and texts as bytes

On the wire numbers are big-endian with a fixed width, signed ones in two's complement, and texts
are UTF-8.
-/

namespace EntityMapper.Wire

/-- The `width` low bytes of a number, most significant first. -/
def bigEndian (width n : Nat) : List UInt8 :=
  match width with
  | 0 => []
  | width + 1 => UInt8.ofNat (n / 256 ^ width) :: bigEndian width n

/-- The number of some bytes, most significant first. -/
def ofBigEndian (bytes : List UInt8) : Nat := bytes.foldl (fun n b => 256 * n + b.toNat) 0

/-- A signed number in two's complement. -/
def encodeInt (width : Nat) (n : Int) : List UInt8 :=
  bigEndian width (n % (256 ^ width : Nat)).toNat

/-- The signed number of some bytes. -/
def signedValue (bytes : List UInt8) : Int :=
  Int.bmod (ofBigEndian bytes) (256 ^ bytes.length)

/-- A signed number of a given width; any other number of bytes is no number. -/
def decodeInt? (width : Nat) (bytes : List UInt8) : Option Int :=
  if bytes.length = width then some (signedValue bytes) else none

/-- An unsigned number of a given width. -/
def decodeNat? (width : Nat) (bytes : List UInt8) : Option Nat :=
  if bytes.length = width then some (ofBigEndian bytes) else none

/-- Takes a signed number of four bytes from the front. -/
def takeInt32? (bytes : List UInt8) : Option (Int × List UInt8) :=
  (decodeInt? 4 (bytes.take 4)).map (·, bytes.drop 4)

/-- The bytes of a text. -/
def encodeText (s : String) : List UInt8 := s.toUTF8.data.toList

/-- The text of some bytes, if they are UTF-8. -/
def decodeText? (bytes : List UInt8) : Option String := String.fromUTF8? ⟨bytes.toArray⟩

end EntityMapper.Wire
