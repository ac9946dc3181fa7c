import EntityMapper.Column.Basic
import EntityMapper.Sql.Identifier
import EntityMapper.Text.LowerCase

/-!
# Schemas

A shape describes an entity; registering it checks the description and gives the schema. Every name
has to be an identifier, no two columns may share one, every default has to be a value that its
column accepts, and at most one column may identify the rows.
-/

namespace EntityMapper

/-- The description of an entity. -/
structure Shape where
  name : String
  /-- The table's name, if it is not derived from the entity's. -/
  table : Option String := none
  /-- Names and declarations of the columns. -/
  columns : List (String × Column) := []
  /-- The identity column, if it is not the one that is flagged. -/
  identity : Option String := none

/-- A checked description, its columns bound to the table. -/
structure Schema where
  name : String
  table : String
  /-- Names and columns in the order of declaration. -/
  columns : List (String × Column)
  /-- The position of the identity column. -/
  identity : Option Nat

/-- The table of a shape: the name that is given, or the entity's in lower case and an `s`. -/
def Shape.tableName (shape : Shape) : String :=
  shape.table.getD (Text.toLower shape.name ++ "s")

namespace Schema

/-! ## Registration -/

/-- A column name that is declared twice. -/
def duplicateColumn (entity column : String) : Error :=
  .definition (entity ++ " declares column '" ++ column ++ "' more than once")

/-- A default of the wrong type. -/
def defaultMismatch (entity column : String) (type : ColumnType) (v : Value) : Error :=
  .definition ("default " ++ v.display ++ " of " ++ entity ++ "." ++ column ++ " is not a " ++
    type.name ++ " value")

/-- More than one column that is flagged as identity. -/
def severalIdentities (entity : String) : Error :=
  .definition (entity ++ " has more than one identity column")

/-- Refuses a default that the column does not accept. -/
def checkDefault (entity name : String) (column : Column) : Except Error Unit :=
  match column.default with
  | none => .ok ()
  | some v =>
    if column.type.accepts v then column.validate v
    else .error (defaultMismatch entity name column.type v)

/-- Adds a column to those bound so far. -/
def addColumn (entity table : String) (bound : List (String × Column))
    (declared : String × Column) : Except Error (List (String × Column)) := do
  let (name, declaration) := declared
  Sql.checkIdentifier .column name
  if bound.any fun (n, _) => n == name then .error (duplicateColumn entity name)
  else
    let column := declaration.bind table name none
    checkDefault entity name column
    return bound ++ [(name, column)]

/-- The position of a name among columns. -/
def indexIn (columns : List (String × Column)) (name : String) : Option Nat :=
  columns.findIdx? fun (n, _) => n == name

/-- The positions of the columns that are flagged as identity. -/
def flaggedIn (columns : List (String × Column)) : List Nat :=
  (columns.zipIdx.filter fun ((_, c), _) => c.isIdentity).map (·.2)

/-- The position of the identity column: the one that is named, else the only one flagged. -/
def identityIn (entity : String) (columns : List (String × Column)) (named : Option String) :
    Except Error (Option Nat) :=
  match named with
  | some name =>
    match indexIn columns name with
    | some index => .ok (some index)
    | none => .error (.unknownColumn entity name)
  | none =>
    match flaggedIn columns with
    | [] => .ok none
    | [index] => .ok (some index)
    | _ => .error (severalIdentities entity)

/-- Checks a shape and binds its columns. -/
def ofShape (shape : Shape) : Except Error Schema := do
  let table := shape.tableName
  Sql.checkIdentifier .table table
  let columns ← shape.columns.foldlM (addColumn shape.name table) []
  let identity ← identityIn shape.name columns shape.identity
  return ⟨shape.name, table, columns, identity⟩

/-! ## Looking up -/

/-- The number of columns. -/
def size (s : Schema) : Nat := s.columns.length

/-- Whether there is no column. -/
def isEmpty (s : Schema) : Bool := s.columns.isEmpty

/-- The position of a column. -/
def index? (s : Schema) (name : String) : Option Nat := indexIn s.columns name

/-- The column of a name. -/
def column? (s : Schema) (name : String) : Option Column :=
  (s.index? name).bind fun index => s.columns[index]?.map (·.2)

/-- The column of a name; fails if there is none. -/
def column (s : Schema) (name : String) : Except Error Column :=
  match s.column? name with
  | some c => .ok c
  | none => .error (.unknownColumn s.name name)

/-- The identity column. -/
def identityColumn? (s : Schema) : Option Column :=
  s.identity.bind fun index => s.columns[index]?.map (·.2)

/-- The name of the identity column. -/
def identityName? (s : Schema) : Option String :=
  s.identity.bind fun index => s.columns[index]?.map (·.1)

/-- The statement that creates the table. -/
def createTableSql (s : Schema) : String :=
  "CREATE TABLE IF NOT EXISTS " ++ s.table ++ " (" ++
    String.intercalate ", " (s.columns.map fun (n, c) => n ++ " " ++ c.sqlType) ++ ")"

end Schema

/-- Where and when an entity was registered. No two registrations of a program have the same. -/
structure Registration where
  /-- The number of the client. -/
  client : Nat
  /-- How many entities that client had before. -/
  position : Nat
deriving DecidableEq, Repr

/-- A registered schema. Two registrations are different entities, even of one shape. -/
structure Entity where
  registration : Registration
  schema : Schema

namespace Entity

/-- The entity's name. -/
def name (e : Entity) : String := e.schema.name

/-- The entity's table. -/
def table (e : Entity) : String := e.schema.table

/-- Whether two entities are the same registration. -/
def same (a b : Entity) : Bool := a.registration == b.registration

/-- The debug text of an entity. -/
def debug (e : Entity) : String :=
  "Entity \x7b name: " ++ Text.quoted e.name ++ ", table: " ++ Text.quoted e.table ++ " \x7d"

end Entity

end EntityMapper
