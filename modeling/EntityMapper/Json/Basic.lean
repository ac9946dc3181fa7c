import EntityMapper.Number.Binary64

/-!
# JSON values

A number is an integer or a double: the two never compare equal. The fields of an object are sorted
by name and no name occurs twice, so that an object has one representation.
-/

namespace EntityMapper

open Number

/-- A JSON value. -/
inductive Json where
  | null
  | bool (b : Bool)
  /-- A number written without fraction and exponent. -/
  | int (n : Int)
  /-- Any other number. -/
  | float (x : Binary64)
  | str (s : String)
  | arr (items : List Json)
  /-- An object, its fields sorted by name. -/
  | obj (fields : List (String × Json))
deriving Inhabited

namespace Json

mutual

/-- Equality of values; doubles are compared as numbers. -/
protected def beq : Json → Json → Bool
  | .null, .null => true
  | .bool a, .bool b => a == b
  | .int a, .int b => a == b
  | .float a, .float b => a == b
  | .str a, .str b => a == b
  | .arr a, .arr b => beqItems a b
  | .obj a, .obj b => beqFields a b
  | _, _ => false

/-- Equality of arrays. -/
def beqItems : List Json → List Json → Bool
  | [], [] => true
  | a :: as, b :: bs => Json.beq a b && beqItems as bs
  | _, _ => false

/-- Equality of objects. -/
def beqFields : List (String × Json) → List (String × Json) → Bool
  | [], [] => true
  | (m, a) :: as, (n, b) :: bs => m == n && Json.beq a b && beqFields as bs
  | _, _ => false

end

instance : BEq Json := ⟨Json.beq⟩

/-- Puts a field at its place among sorted fields, or a new value under a name that is there. -/
def insertField (name : String) (value : Json) : List (String × Json) → List (String × Json)
  | [] => [(name, value)]
  | (n, v) :: rest =>
    if name = n then (name, value) :: rest
    else if name < n then (name, value) :: (n, v) :: rest
    else (n, v) :: insertField name value rest

/-- The object of a list of fields; of two fields with one name the later counts. -/
def ofFields (fields : List (String × Json)) : Json :=
  .obj (fields.foldl (fun sorted (name, value) => insertField name value sorted) [])

/-- The value of a field of an object. -/
def field? (name : String) : Json → Option Json
  | .obj fields => (fields.find? fun (n, _) => n == name).map (·.2)
  | _ => none

end Json

end EntityMapper
