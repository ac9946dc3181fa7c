import EntityMapper.Error
import EntityMapper.Record

/-!
# Projections

A projection is the answer to a query for some columns: it can be read by name and by position and
refuses every assignment.
-/

namespace EntityMapper

/-- A read-only row. -/
structure Projection where
  fields : List (String × Value)
deriving Inhabited

namespace Projection

/-- The projection of a record. -/
def ofRecord (r : Record) : Projection := ⟨r.fields⟩

/-- The first value of a name. -/
def get? (p : Projection) (name : String) : Option Value :=
  (p.fields.find? fun (n, _) => n == name).map (·.2)

/-- The value at a position. -/
def at? (p : Projection) (index : Nat) : Option Value := p.fields[index]?.map (·.2)

/-- The names in order. -/
def columns (p : Projection) : List String := p.fields.map (·.1)

/-- The values in order. -/
def values (p : Projection) : List Value := p.fields.map (·.2)

/-- The number of values. -/
def size (p : Projection) : Nat := p.fields.length

/-- Whether there is no value. -/
def isEmpty (p : Projection) : Bool := p.fields.isEmpty

/-- An assignment to a column of a projection. -/
def readOnly (name : String) : Error :=
  .immutable ("cannot assign to projected column '" ++ name ++ "'")

/-- Refuses an assignment; the error tells whether there is such a column. -/
def set (p : Projection) (name : String) (_ : Value) : Except Error Projection :=
  if p.columns.contains name then .error (readOnly name)
  else .error (.unknownColumn "row projection" name)

/-- The projection as a JSON object. -/
def toJson (p : Projection) : Json := .ofFields (p.fields.map fun (n, v) => (n, v.toJson))

/-- The text that messages show. -/
def display (p : Projection) : String :=
  "(" ++ String.intercalate ", " (p.fields.map fun (n, v) => n ++ "=" ++ v.display) ++ ")"

end Projection

end EntityMapper
