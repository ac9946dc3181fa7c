import EntityMapper.Calendar.Timestamp
import EntityMapper.Json.Basic
import EntityMapper.Uuid

/-!
# Values

Entities are declared at run time, so the value of a column is one of eleven kinds rather than a
type of its own. Two values of different kinds are never equal, and doubles are compared as numbers.
-/

namespace EntityMapper

open Number Calendar

/-- A dynamically typed database value. -/
inductive Value where
  | null
  | bool (b : Bool)
  /-- A 64-bit integer. -/
  | int (n : Int64)
  | float (x : Binary64)
  | text (s : String)
  | bytes (bytes : List UInt8)
  | uuid (u : Uuid)
  /-- A point in time without a zone. -/
  | timestamp (t : Timestamp)
  /-- A point in time, in universal time. -/
  | timestampTz (t : Timestamp)
  | json (j : Json)
  | array (items : List Value)
deriving Inhabited

namespace Value

mutual

/-- Equality: the same kind and equal contents. -/
protected def beq : Value → Value → Bool
  | .null, .null => true
  | .bool a, .bool b => a == b
  | .int a, .int b => a == b
  | .float a, .float b => a == b
  | .text a, .text b => a == b
  | .bytes a, .bytes b => a == b
  | .uuid a, .uuid b => decide (a = b)
  | .timestamp a, .timestamp b => decide (a = b)
  | .timestampTz a, .timestampTz b => decide (a = b)
  | .json a, .json b => a == b
  | .array a, .array b => beqItems a b
  | _, _ => false

/-- Equality of the items of two arrays. -/
def beqItems : List Value → List Value → Bool
  | [], [] => true
  | a :: as, b :: bs => Value.beq a b && beqItems as bs
  | _, _ => false

end

instance : BEq Value := ⟨Value.beq⟩

/-- Whether a value is absent. -/
def isNull : Value → Bool
  | .null => true
  | _ => false

/-- Whether a value is an integer or a double. -/
def isNumeric : Value → Bool
  | .int _ | .float _ => true
  | _ => false

/-- The name of a value's kind, as messages give it. -/
def kindName : Value → String
  | .null => "null"
  | .bool _ => "bool"
  | .int _ => "integer"
  | .float _ => "float"
  | .text _ => "text"
  | .bytes _ => "bytes"
  | .uuid _ => "uuid"
  | .timestamp _ => "timestamp"
  | .timestampTz _ => "timestamptz"
  | .json _ => "json"
  | .array _ => "array"

/-- The truth value, if it is one. -/
def bool? : Value → Option Bool
  | .bool b => some b
  | _ => none

/-- The integer, if it is one. -/
def int? : Value → Option Int64
  | .int n => some n
  | _ => none

/-- The number as a double; an integer is rounded to the nearest one. -/
def float? : Value → Option Binary64
  | .int n => some (.ofInt n.toInt)
  | .float x => some x
  | _ => none

/-- The text, if it is one. -/
def text? : Value → Option String
  | .text s => some s
  | _ => none

/-- The items, if it is an array. -/
def array? : Value → Option (List Value)
  | .array items => some items
  | _ => none

end Value

end EntityMapper
