import EntityMapper.Json.Reader
import EntityMapper.Record
import EntityMapper.Value.Basic
import EntityMapper.Wire.Bytes
import EntityMapper.Wire.PgType
import EntityMapper.Error

/-!
# Fields

The type of a column decides how its fields are read. Types outside the table are refused, whatever
the field holds; of the others, a field without bytes is NULL.
-/

namespace EntityMapper.Wire

open Number Calendar

/-- Why a field could not be read. -/
inductive DecodeError where
  /-- The library does not read this type. -/
  | unsupported (type : PgType)
  /-- The bytes are no value of the type. -/
  | malformed
deriving DecidableEq, Repr

/-- The text of an error in the field at a position. -/
def DecodeError.message (index : Nat) : DecodeError → String
  | .unsupported type => "unsupported column type " ++ type.name
  | .malformed => "error deserializing column " ++ toString index

/-- The types whose fields are read. -/
def ScalarType.isReadable : ScalarType → Bool
  | .other _ _ => false
  | _ => true

/-- The types that are read as items of an array. -/
def ScalarType.isReadableItem : ScalarType → Bool
  | .other _ _ | .bytea | .name | .oid => false
  | _ => true

/-- A JSON text. -/
def decodeJson? (bytes : List UInt8) : Option Value :=
  ((decodeText? bytes).bind Json.read?).map .json

/-- A point in time. -/
def decodeTimestamp? (bytes : List UInt8) : Option Timestamp :=
  (decodeInt? 8 bytes).bind Timestamp.ofMicros?

/-- The value of some bytes of a type. -/
def decodeScalar? (type : ScalarType) (bytes : List UInt8) : Option Value :=
  match type with
  | .bool => (decodeNat? 1 bytes).map fun n => .bool (n != 0)
  | .int2 => (decodeInt? 2 bytes).map fun n => .int (.ofInt n)
  | .int4 => (decodeInt? 4 bytes).map fun n => .int (.ofInt n)
  | .int8 => (decodeInt? 8 bytes).map fun n => .int (.ofInt n)
  | .oid => (decodeNat? 4 bytes).map fun n => .int (.ofInt n)
  | .float4 => (decodeNat? 4 bytes).map fun n => .float (.ofSingleBits (.ofNat n))
  | .float8 => (decodeNat? 8 bytes).map fun n => .float ⟨.ofNat n⟩
  | .text | .varchar | .bpchar | .name => (decodeText? bytes).map .text
  | .bytea => some (.bytes bytes)
  | .uuid => (Uuid.ofBytes? bytes).map .uuid
  | .timestamp => (decodeTimestamp? bytes).map .timestamp
  | .timestamptz => (decodeTimestamp? bytes).map .timestampTz
  | .json => decodeJson? bytes
  | .jsonb =>
    match bytes with
    | version :: rest => if version = 1 then decodeJson? rest else none
    | [] => none
  | .other _ _ => none

/-- Takes so many items of an array from the front, each with its length; a negative length is
NULL. -/
def takeItems? : Nat → List UInt8 → Option (List (Option (List UInt8)) × List UInt8)
  | 0, bytes => some ([], bytes)
  | count + 1, bytes => do
    let (length, bytes) ← takeInt32? bytes
    if length < 0 then
      let (rest, bytes) ← takeItems? count bytes
      return (none :: rest, bytes)
    else if bytes.length < length.toNat then none
    else
      let (rest, after) ← takeItems? count (bytes.drop length.toNat)
      return (some (bytes.take length.toNat) :: rest, after)

/-- The items of an array of at most one dimension; nothing may follow them. -/
def arrayItems? (bytes : List UInt8) : Option (List (Option (List UInt8))) := do
  let (dimensions, bytes) ← takeInt32? bytes
  let (_, bytes) ← takeInt32? bytes
  let (_, bytes) ← takeInt32? bytes
  if dimensions = 0 then if bytes.isEmpty then some [] else none
  else if dimensions = 1 then
    let (length, bytes) ← takeInt32? bytes
    let (_, bytes) ← takeInt32? bytes
    if length < 0 then none
    else
      let (items, rest) ← takeItems? length.toNat bytes
      if rest.isEmpty then some items else none
  else none

/-- The value of a field or an item; without bytes it is NULL. -/
def decodeNullable? (type : ScalarType) : Option (List UInt8) → Option Value
  | none => some .null
  | some bytes => decodeScalar? type bytes

/-- The array of some bytes. -/
def decodeArray? (item : ScalarType) (bytes : List UInt8) : Option Value := do
  let items ← arrayItems? bytes
  return .array (← items.mapM (decodeNullable? item))

/-- An outcome that is malformed if it is not there. -/
def orMalformed (v : Option Value) : Except DecodeError Value :=
  match v with
  | some v => .ok v
  | none => .error .malformed

/-- The value of a field of a column. -/
def decodeField (type : PgType) (field : Option (List UInt8)) : Except DecodeError Value :=
  match type with
  | .scalar t =>
    if t.isReadable then orMalformed (decodeNullable? t field) else .error (.unsupported type)
  | .array (.scalar t) =>
    if t.isReadableItem then
      match field with
      | none => .ok .null
      | some bytes => orMalformed (decodeArray? t bytes)
    else .error (.unsupported type)
  | _ => .error (.unsupported type)

/-- Reads fields from the position on; the first that cannot be read is the error. -/
def decodeFields (index : Nat) : List (String × PgType) → List (Option (List UInt8)) →
    Except Error (List (String × Value))
  | (name, type) :: columns, field :: fields =>
    match decodeField type field with
    | .error e => .error (.decode name (e.message index))
    | .ok v => (decodeFields (index + 1) columns fields).map ((name, v) :: ·)
  | _, _ => .ok []

/-- The record of a row. It keeps all its columns, also those of one name. -/
def decodeRow (columns : List (String × PgType)) (row : List (Option (List UInt8))) :
    Except Error Record :=
  (decodeFields 0 columns row).map Record.mk

end EntityMapper.Wire
