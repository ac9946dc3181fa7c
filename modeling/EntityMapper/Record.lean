import EntityMapper.Value.Display

/-!
# Records

A record is a row: named values in the order of the columns. Adding a value under a name that is
there already replaces the value in its place. A row decoded from the server keeps its columns as
they came, also two of one name; then the first is found.
-/

namespace EntityMapper

/-- A row of named values. -/
structure Record where
  fields : List (String × Value) := []
deriving Inhabited

namespace Record

/-- The record without fields. -/
def empty : Record := ⟨[]⟩

/-- The fields after a value is put under a name. -/
def pushField (name : String) (v : Value) : List (String × Value) → List (String × Value)
  | [] => [(name, v)]
  | (n, old) :: rest => if n = name then (n, v) :: rest else (n, old) :: pushField name v rest

/-- Puts a value under a name: in the place of the first value of that name, or at the end. -/
def push (r : Record) (name : String) (v : Value) : Record := ⟨pushField name v r.fields⟩

/-- The record of a list of fields that are pushed in order. -/
def ofList (fields : List (String × Value)) : Record :=
  fields.foldl (fun r (name, v) => r.push name v) empty

/-- The first value of a name. -/
def get? (r : Record) (name : String) : Option Value :=
  (r.fields.find? fun (n, _) => n == name).map (·.2)

/-- The value at a position. -/
def at? (r : Record) (index : Nat) : Option Value := r.fields[index]?.map (·.2)

/-- The names in order. -/
def columns (r : Record) : List String := r.fields.map (·.1)

/-- The number of fields. -/
def size (r : Record) : Nat := r.fields.length

/-- Whether there is no field. -/
def isEmpty (r : Record) : Bool := r.fields.isEmpty

/-- Equality: the same names with equal values in the same order. -/
protected def beq (a b : Record) : Bool := a.fields == b.fields

instance : BEq Record := ⟨Record.beq⟩

end Record

end EntityMapper
