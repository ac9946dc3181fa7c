import EntityMapper.Column.Type
import EntityMapper.Error
import EntityMapper.Value.Display
import EntityMapper.Value.Literal

/-!
# Columns

A column starts as a declaration, is refined by modifiers and is bound to a table when its entity is
registered. Nothing changes in place: a modifier gives a new column, and that one is not bound, so
one declaration can serve several entities.
-/

namespace EntityMapper

/-- Which column of which table a declaration belongs to. -/
structure Binding where
  table : String
  name : String
deriving DecidableEq, Repr

/-- The declaration of a column. -/
structure Column where
  /-- The kind of value it holds. -/
  native : NativeType
  /-- The SQL type, without anything that modifiers add. -/
  baseType : String
  /-- The size in brackets after the type. -/
  size : Option Nat := none
  /-- Whether it holds arrays. -/
  isArray : Bool := false
  /-- The declared length of the arrays. -/
  arrayLength : Option Nat := none
  /-- Whether its values are unique. -/
  isUnique : Bool := false
  /-- Whether it refuses NULL. -/
  isNotNull : Bool := false
  /-- The value of new instances. -/
  default : Option Value := none
  /-- Whether it identifies the rows. -/
  isIdentity : Bool := false
  /-- Whether it is the primary key. -/
  isPrimaryKey : Bool := false
  /-- What a value has to satisfy. -/
  check : Option (Value → Bool) := none
  /-- The table it belongs to. -/
  binding : Option Binding := none

namespace Column

/-! ## Declarations -/

/-- A column of a kind with a given SQL type. -/
def declare (native : NativeType) (sqlType : String) : Column :=
  ⟨native, sqlType, none, false, none, false, false, none, false, false, none, none⟩

/-- Unlimited text. -/
def text : Column := declare .text "TEXT"
/-- Text that may have a size. -/
def varchar : Column := declare .text "VARCHAR"
/-- A four-byte integer. -/
def integer : Column := declare .integer "INTEGER"
/-- An eight-byte integer. -/
def bigint : Column := declare .integer "BIGINT"
/-- A two-byte integer. -/
def smallint : Column := declare .integer "SMALLINT"
/-- A double. -/
def float : Column := declare .float "DOUBLE PRECISION"
/-- A single-precision number. -/
def real : Column := declare .float "REAL"
/-- A truth value. -/
def boolean : Column := declare .bool "BOOLEAN"
/-- A four-byte number that the database gives out, as identity. -/
def serial : Column := { declare .integer "SERIAL" with isIdentity := true }
/-- An eight-byte number that the database gives out, as identity. -/
def bigserial : Column := { declare .integer "BIGSERIAL" with isIdentity := true }
/-- A byte string. -/
def bytea : Column := declare .bytes "BYTEA"
/-- A universally unique identifier. -/
def uuid : Column := declare .uuid "UUID"
/-- A point in time without a zone. -/
def timestamp : Column := declare .timestamp "TIMESTAMP"
/-- A point in universal time. -/
def timestamptz : Column := declare .timestampTz "TIMESTAMPTZ"
/-- A JSON text. -/
def json : Column := declare .json "JSON"
/-- A JSON value in binary form. -/
def jsonb : Column := declare .json "JSONB"

/-! ## Modifiers -/

/-- The column without its binding. -/
def unbound (c : Column) : Column := { c with binding := none }

/-- Puts a size after the SQL type. -/
def sized (c : Column) (size : Nat) : Column := { c.unbound with size := some size }

/-- Makes it hold arrays of any length. -/
def asArray (c : Column) : Column := { c.unbound with isArray := true, arrayLength := none }

/-- Makes it hold arrays with a declared length. -/
def asArraySized (c : Column) (length : Nat) : Column :=
  { c.unbound with isArray := true, arrayLength := some length }

/-- Makes its values unique. -/
def unique (c : Column) : Column := { c.unbound with isUnique := true }

/-- Makes it refuse NULL. -/
def notNull (c : Column) : Column := { c.unbound with isNotNull := true }

/-- Gives new instances a value. -/
def withDefault (c : Column) (v : Value) : Column := { c.unbound with default := some v }

/-- Makes its values satisfy a check. -/
def withCheck (c : Column) (check : Value → Bool) : Column := { c.unbound with check := some check }

/-- Rewrites the SQL type. -/
def customize (c : Column) (f : String → String) : Column :=
  { c.unbound with baseType := f c.baseType }

/-- Makes it identify the rows. -/
def identity (c : Column) : Column := { c.unbound with isIdentity := true }

/-- Makes it the primary key, and so the identity. -/
def primaryKey (c : Column) : Column :=
  { c.unbound with isIdentity := true, isPrimaryKey := true }

/-- The column as `table.name`, with another default if one is given. -/
def bind (c : Column) (table name : String) (default : Option Value) : Column :=
  { c with binding := some ⟨table, name⟩, default := default <|> c.default }

/-! ## What a declaration says -/

/-- The type of the column. -/
def type (c : Column) : ColumnType := ⟨c.native, c.isArray⟩

/-- Whether it belongs to a table. -/
def isBound (c : Column) : Bool := c.binding.isSome

/-- Its name, if it is bound. -/
def name (c : Column) : Option String := c.binding.map (·.name)

/-- Its table, if it is bound. -/
def table (c : Column) : Option String := c.binding.map (·.table)

/-- The size in brackets. -/
def sizeText (c : Column) : String :=
  match c.size with
  | some n => "(" ++ toString n ++ ")"
  | none => ""

/-- The brackets of an array type. -/
def arrayText (c : Column) : String :=
  if c.isArray then
    match c.arrayLength with
    | some n => "[" ++ toString n ++ "]"
    | none => "[]"
  else ""

/-- The clause of the default. -/
def defaultText (c : Column) : String :=
  match c.default with
  | some v => " DEFAULT " ++ v.literal
  | none => ""

/-- The SQL type with all clauses, as it stands in the definition of a table. -/
def sqlType (c : Column) : String :=
  c.baseType ++ c.sizeText ++ c.arrayText ++ (if c.isUnique then " UNIQUE" else "") ++
    (if c.isNotNull then " NOT NULL" else "") ++ c.defaultText ++
    (if c.isPrimaryKey then " PRIMARY KEY" else "")

/-- A value that a column's check refuses. -/
def rejected (c : Column) (v : Value) : Error :=
  .validation ("value " ++ v.display ++ " rejected for column " ++ c.name.getD "<unbound>")

/-- Whether the check, if there is one, passes a value. -/
def passes (c : Column) (v : Value) : Bool :=
  match c.check with
  | some check => check v
  | none => true

/-- Refuses a value that the check does not pass. -/
def validate (c : Column) (v : Value) : Except Error Unit :=
  if c.passes v then .ok () else .error (c.rejected v)

/-- Equality of declarations: the same kind of value, SQL type, identity and binding. Checks are not
compared. -/
protected def beq (a b : Column) : Bool :=
  a.native == b.native && a.isIdentity == b.isIdentity && a.binding == b.binding &&
    a.sqlType == b.sqlType

instance : BEq Column := ⟨Column.beq⟩

/-- The columns without those that equal an earlier one. -/
def distinct (columns : List Column) : List Column :=
  columns.foldl (fun found c => if found.contains c then found else found ++ [c]) []

/-- The debug text of a name that may be absent. -/
def debugName : Option String → String
  | some s => "Some(" ++ Text.quoted s ++ ")"
  | none => "None"

/-- The debug text of a truth value. -/
def debugFlag (b : Bool) : String := if b then "true" else "false"

/-- The debug text of a column. -/
def debug (c : Column) : String :=
  "Column \x7b native: " ++ c.native.debug ++ ", sql_type: " ++ Text.quoted c.sqlType ++
    ", identity: " ++ debugFlag c.isIdentity ++ ", table: " ++ debugName c.table ++
    ", name: " ++ debugName c.name ++ ", has_check: " ++ debugFlag c.check.isSome ++ " \x7d"

end Column

end EntityMapper
