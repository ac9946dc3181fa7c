import EntityMapper.Value.Basic

/-!
# Column types

A column holds values of one kind or arrays of them. Which values it accepts is decided here; NULL
is accepted everywhere, and a column of either kind of number accepts both kinds.
-/

namespace EntityMapper

/-- The kind of value that a column, or an item of an array column, holds. -/
inductive NativeType where
  | text
  | integer
  | float
  | bool
  | bytes
  | uuid
  /-- Points in time without a zone. -/
  | timestamp
  /-- Points in universal time. -/
  | timestampTz
  | json
deriving DecidableEq, Repr

namespace NativeType

/-- The kinds with arithmetic. -/
def isNumeric : NativeType → Bool
  | .integer | .float => true
  | _ => false

/-- Whether a value may stand where the kind is expected. -/
def accepts : NativeType → Value → Bool
  | _, .null => true
  | .integer, v | .float, v => v.isNumeric
  | .text, .text _ => true
  | .bool, .bool _ => true
  | .bytes, .bytes _ => true
  | .uuid, .uuid _ => true
  | .timestamp, .timestamp _ => true
  | .timestampTz, .timestampTz _ => true
  | .json, .json _ => true
  | _, _ => false

/-- The name of a kind, as messages give it. -/
def name : NativeType → String
  | .text => "text"
  | .integer => "integer"
  | .float => "float"
  | .bool => "bool"
  | .bytes => "bytes"
  | .uuid => "uuid"
  | .timestamp => "timestamp"
  | .timestampTz => "timestamptz"
  | .json => "json"

/-- The kind of a name. -/
def ofName? : String → Option NativeType
  | "text" => some .text
  | "integer" => some .integer
  | "float" => some .float
  | "bool" => some .bool
  | "bytes" => some .bytes
  | "uuid" => some .uuid
  | "timestamp" => some .timestamp
  | "timestamptz" => some .timestampTz
  | "json" => some .json
  | _ => none

/-- The debug text of a kind. -/
def debug : NativeType → String
  | .text => "Text"
  | .integer => "Integer"
  | .float => "Float"
  | .bool => "Bool"
  | .bytes => "Bytes"
  | .uuid => "Uuid"
  | .timestamp => "Timestamp"
  | .timestampTz => "TimestampTz"
  | .json => "Json"

end NativeType

/-- The type of a column. -/
structure ColumnType where
  /-- The kind of the value, or of the items. -/
  native : NativeType
  /-- Whether the column holds arrays. -/
  isArray : Bool
deriving DecidableEq, Repr

namespace ColumnType

/-- The type of columns that hold single values of a kind. -/
def scalar (native : NativeType) : ColumnType := ⟨native, false⟩

/-- The type of the items of an array column; that of the values otherwise. -/
def element (ty : ColumnType) : ColumnType := scalar ty.native

/-- Whether the column holds single numbers. -/
def isNumeric (ty : ColumnType) : Bool := !ty.isArray && ty.native.isNumeric

/-- Whether the column may hold a value; all items of an array have to be acceptable. -/
def accepts (ty : ColumnType) (v : Value) : Bool :=
  if ty.isArray then
    match v with
    | .null => true
    | .array items => items.all ty.native.accepts
    | _ => false
  else ty.native.accepts v

theorem accepts_single {type : ColumnType} (h : type.isArray = false) (v : Value) :
    type.accepts v = type.native.accepts v := by simp [accepts, h]

/-- An array column takes NULL and lists of acceptable items. -/
theorem accepts_several {type : ColumnType} (h : type.isArray = true) (v : Value) :
    type.accepts v = true ↔
      v = .null ∨ ∃ items, v = .array items ∧ ∀ w ∈ items, type.native.accepts w = true := by
  cases v <;> simp [accepts, h]

/-- The name of the type, as messages give it. -/
def name (ty : ColumnType) : String :=
  if ty.isArray then ty.native.name ++ "[]" else ty.native.name

/-- The debug text of the type. -/
def debug (ty : ColumnType) : String :=
  "ColumnType \x7b native: " ++ ty.native.debug ++ ", array: " ++
    (if ty.isArray then "true" else "false") ++ " \x7d"

end ColumnType

end EntityMapper
