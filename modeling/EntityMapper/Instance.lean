import EntityMapper.Expr.Operand
import EntityMapper.Record
import EntityMapper.Schema

/-!
# Instances

An instance is a row of an entity in memory. It knows which columns have a value, which of them were
changed since it was last stored, whether it is stored at all, and under which identity. A changed
identity therefore does not lose the row: statements about it use the identity it was stored with.
-/

namespace EntityMapper

/-- The value of one column of an instance. -/
structure Cell where
  /-- The value, if there is one; NULL is one. -/
  value : Option Value
  /-- Whether it was set since the instance was last stored. -/
  isDirty : Bool
deriving Inhabited

/-- A row of an entity in memory. -/
structure Instance where
  entity : Entity
  /-- One cell for each column, in the order of the schema. -/
  cells : List Cell
  /-- Whether the row is stored. -/
  isSaved : Bool
  /-- The identity that the row was stored with. -/
  savedIdentity : Option Value

namespace Instance

/-- The schema of the entity. -/
def schema (i : Instance) : Schema := i.entity.schema

/-! ## Making instances -/

/-- A new instance, which has the defaults. -/
def new (entity : Entity) : Instance :=
  ⟨entity, entity.schema.columns.map fun (_, c) => ⟨c.default, false⟩, false, none⟩

/-- The cells after a field of a record is put in its place; a field of no column is dropped. -/
def mergeField (schema : Schema) (cells : List Cell) (field : String × Value) : List Cell :=
  match schema.index? field.1 with
  | some index => cells.modify index fun cell => { cell with value := some field.2 }
  | none => cells

/-- Takes over the values of a record. -/
def merge (i : Instance) (r : Record) : Instance :=
  { i with cells := r.fields.foldl (mergeField i.schema) i.cells }

/-- The value of the identity column. -/
def identityValue? (i : Instance) : Option Value :=
  i.schema.identity.bind fun index => i.cells[index]?.bind (·.value)

/-- The instance once it is stored: nothing is dirty and its identity is the present one. -/
def persisted (i : Instance) : Instance :=
  { i with
    cells := i.cells.map fun cell => { cell with isDirty := false }
    isSaved := true
    savedIdentity := i.identityValue? }

/-- The instance once its row is deleted. Its values stay. -/
def deleted (i : Instance) : Instance :=
  { i with
    cells := i.cells.map fun cell => { cell with isDirty := false }
    isSaved := false
    savedIdentity := none }

/-- The instance of a stored row. -/
def ofRecord (entity : Entity) (r : Record) : Instance :=
  (merge ⟨entity, entity.schema.columns.map fun _ => ⟨none, false⟩, true, none⟩ r).persisted

/-! ## Values -/

/-- The position of a column; fails if there is none. -/
def index (i : Instance) (name : String) : Except Error Nat :=
  match i.schema.index? name with
  | some index => .ok index
  | none => .error (.unknownColumn i.entity.name name)

/-- The value of a column, if it has one. -/
def get (i : Instance) (name : String) : Except Error (Option Value) := do
  let index ← i.index name
  return i.cells[index]?.bind (·.value)

/-- Refuses a value that a column's type or check does not accept. -/
def checkAssignment (c : Column) (v : Value) : Except Error Unit :=
  if c.type.accepts v then c.validate v else .error (.typeMismatch c.type.name v.kindName)

/-- Sets a column. Only a stored instance keeps track of what is set. -/
def set (i : Instance) (name : String) (v : Value) : Except Error Instance := do
  let c ← i.schema.column name
  checkAssignment c v
  let index ← i.index name
  return { i with cells := i.cells.modify index fun cell => ⟨some v, i.isSaved || cell.isDirty⟩ }

/-- A new instance with some columns set in order. -/
def create (entity : Entity) (values : List (String × Value)) : Except Error Instance :=
  values.foldlM (fun i (name, v) => i.set name v) (new entity)

/-- The columns with their cells. -/
def slots (i : Instance) : List ((String × Column) × Cell) := i.schema.columns.zip i.cells

/-- Whether any column was set since the instance was stored. -/
def isDirty (i : Instance) : Bool := i.cells.any (·.isDirty)

/-- The names of the columns that were set since the instance was stored. -/
def dirtyColumns (i : Instance) : List String :=
  i.slots.filterMap fun ((name, _), cell) => if cell.isDirty then some name else none

/-- The columns that have a value, with it. -/
def values (i : Instance) : List (String × Value) :=
  i.slots.filterMap fun ((name, _), cell) => cell.value.map fun v => (name, v)

/-- What an update has to write: the dirty columns, NULL where there is no value. -/
def changes (i : Instance) : List (String × Value) :=
  i.slots.filterMap fun ((name, _), cell) =>
    if cell.isDirty then some (name, cell.value.getD .null) else none

/-- The values as a record. -/
def toRecord (i : Instance) : Record := .ofList i.values

/-- The values as a JSON object. -/
def toJson (i : Instance) : Json := .ofFields (i.values.map fun (n, v) => (n, v.toJson))

/-! ## The stored row -/

/-- An instance that is not stored but should be. -/
def notSaved (i : Instance) : Error := .state (i.entity.name ++ " instance is not saved")

/-- A statement about one row of an entity whose rows have no identity. -/
def noIdentityColumn (i : Instance) (action : String) : Error :=
  .state ("cannot " ++ action ++ " " ++ i.entity.name ++ ": entity has no identity column")

/-- A statement about a row that was stored without identity. -/
def identityMissing (i : Instance) (action : String) : Error :=
  .state ("cannot " ++ action ++ " " ++ i.entity.name ++ ": identity value is missing")

/-- The identity that the row was stored with, unless it is NULL. -/
def knownIdentity? (i : Instance) : Option Value := i.savedIdentity.filter fun v => !v.isNull

/-- The condition that picks the stored row; `action` is the word for what is to be done with it. -/
def identityFilter (i : Instance) (action : String) : Except Error Expr := do
  match i.schema.identityColumn? with
  | none => .error (i.noIdentityColumn action)
  | some column =>
    match i.knownIdentity? with
    | none => .error (i.identityMissing action)
    | some v => (Operand.column column).combine .eq (.value v)

/-! ## Texts -/

/-- The text that messages show. -/
def display (i : Instance) : String :=
  "<" ++ i.entity.name ++ " \x7b" ++
    String.intercalate ", " (i.values.map fun (n, v) => n ++ ": " ++ v.display) ++ "\x7d>"

/-- The debug text of a value that may be absent. -/
def debugValue : Option Value → String
  | some v => "Some(" ++ v.debug ++ ")"
  | none => "None"

/-- The debug text of an instance. -/
def debug (i : Instance) : String :=
  "Instance \x7b entity: " ++ Text.quoted i.entity.name ++
    ", values: [" ++ String.intercalate ", " (i.cells.map fun cell => debugValue cell.value) ++
    "], dirty: [" ++ String.intercalate ", " (i.dirtyColumns.map Text.quoted) ++
    "], saved: " ++ Column.debugFlag i.isSaved ++ " \x7d"

end Instance

end EntityMapper
