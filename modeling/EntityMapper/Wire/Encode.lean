import EntityMapper.Json.Printer
import EntityMapper.Value.Basic
import EntityMapper.Wire.Bytes
import EntityMapper.Wire.PgType

/-!
# Parameters

The kind of a value decides how it is written, and the type of the parameter adapts numbers: an
integer is narrowed or becomes a double, and a double becomes an integer if it is whole. Arrays go
only to parameters of an array type, and their lengths have to fit the four bytes they are sent in.
NULL goes anywhere and has no bytes.
-/

namespace EntityMapper

open Number Wire

/-- Why a value could not be written as a parameter. -/
inductive EncodeError where
  /-- An integer above the range of the parameter. -/
  | tooLarge
  /-- An integer below the range of the parameter. -/
  | tooSmall
  /-- A double that is no whole number, for an integer parameter. -/
  | notWhole (x : Binary64)
  /-- An array for a parameter of another type. -/
  | notArray (type : PgType)
  /-- An array with too many items, or with an item of too many bytes. -/
  | tooLong
deriving DecidableEq, Repr

/-- The text of an error. -/
def EncodeError.message : EncodeError → String
  | .tooLarge => "number too large to fit in target type"
  | .tooSmall => "number too small to fit in target type"
  | .notWhole x => "cannot bind " ++ x.text .plain ++ " to integer parameter"
  | .notArray type => "cannot bind array to non-array parameter of type " ++ type.name
  | .tooLong => "value too large to transmit"

namespace Value

/-- The bytes of an integer that has to fit a width. -/
def encodeNarrow (width : Nat) (n : Int) : Except EncodeError (List UInt8) :=
  if (256 ^ width / 2 : Nat) ≤ n then .error .tooLarge
  else if n < -(256 ^ width / 2 : Nat) then .error .tooSmall
  else .ok (encodeInt width n)

/-- The bytes of a double. -/
def encodeDouble (x : Binary64) : List UInt8 := bigEndian 8 x.bits.toNat

/-- The bytes of the nearest single-precision number. -/
def encodeSingle (x : Binary64) : List UInt8 := bigEndian 4 x.toSingleBits.toNat

/-- The bytes of an integer as a parameter. -/
def encodeInteger (type : PgType) (n : Int) : Except EncodeError (List UInt8) :=
  match type with
  | .scalar .int2 => encodeNarrow 2 n
  | .scalar .int4 => encodeNarrow 4 n
  | .scalar .float4 => .ok (encodeSingle (.ofInt n))
  | .scalar .float8 => .ok (encodeDouble (.ofInt n))
  | _ => .ok (encodeInt 8 n)

/-- The bytes of a double as a parameter. A whole number beyond 64 bits is cut to the nearest
integer they hold before it is narrowed. -/
def encodeFloat (type : PgType) (x : Binary64) : Except EncodeError (List UInt8) :=
  match type with
  | .scalar .float4 => .ok (encodeSingle x)
  | .scalar .int2 | .scalar .int4 | .scalar .int8 =>
    if x.isWhole then encodeInteger type x.toInt64Saturating.toInt else .error (.notWhole x)
  | _ => .ok (encodeDouble x)

/-- The bytes of a JSON value: its compact text, after a byte for the version if it is binary. -/
def encodeJson (type : PgType) (j : Json) : List UInt8 :=
  if type = .scalar .jsonb then 1 :: encodeText j.compact else encodeText j.compact

/-- The greatest length that four bytes with a sign hold. -/
def maxLength : Nat := 2 ^ 31 - 1

/-- An item of an array: its length and its bytes; NULL has the length minus one. -/
def itemBytes : Option (List UInt8) → List UInt8
  | none => encodeInt 4 (-1)
  | some content => encodeInt 4 content.length ++ content

/-- An array of one dimension: the number of dimensions, whether there is a NULL, the type of the
items, how many there are and the number of the first one, then the items. -/
def arrayBytes (type item : PgType) (items : List (Option (List UInt8))) : List UInt8 :=
  encodeInt 4 1 ++ encodeInt 4 (if items.any (·.isNone) then 1 else 0) ++ bigEndian 4 item.number ++
    encodeInt 4 items.length ++ encodeInt 4 type.lowerBound ++ items.flatMap itemBytes

mutual

/-- The bytes of a value as a parameter of a type; NULL has none. -/
def encode (type : PgType) : Value → Except EncodeError (Option (List UInt8))
  | .null => .ok none
  | .bool b => .ok (some [if b then 1 else 0])
  | .int n => (encodeInteger type n.toInt).map some
  | .float x => (encodeFloat type x).map some
  | .text s => .ok (some (encodeText s))
  | .bytes b => .ok (some b)
  | .uuid u => .ok (some u.bytes)
  | .timestamp t | .timestampTz t => .ok (some (encodeInt 8 t.toMicros))
  | .json j => .ok (some (encodeJson type j))
  | .array items =>
    match type.item? with
    | none => .error (.notArray type)
    | some item =>
      if maxLength < items.length then .error .tooLong
      else (encodeItems item items).map fun encoded => some (arrayBytes type item encoded)

/-- The bytes of the items of an array, up to the first that cannot be written. -/
def encodeItems (type : PgType) : List Value → Except EncodeError (List (Option (List UInt8)))
  | [] => .ok []
  | v :: rest =>
    match encode type v with
    | .error e => .error e
    | .ok item =>
      if item.any (maxLength < ·.length) then .error .tooLong
      else (encodeItems type rest).map (item :: ·)

end

end Value

end EntityMapper
