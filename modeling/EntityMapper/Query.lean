import EntityMapper.Expr.Render
import EntityMapper.Instance

/-!
# Queries

A query is an entity with a filter and a page. It does nothing by itself: it renders the statements
that read or change the rows it picks. A page makes sense only where several rows are read, so the
other statements refuse one; a limit or an offset of zero is none.
-/

namespace EntityMapper

open Sql

/-- The rows of an entity that a statement is about. -/
structure Query where
  entity : Entity
  /-- The condition that the rows satisfy. -/
  filter : Option Expr := none
  /-- The greatest number of rows to read. -/
  limit : Option Int64 := none
  /-- The number of rows to skip. -/
  offset : Option Int64 := none

/-- All rows of an entity. -/
def Entity.all (e : Entity) : Query := ⟨e, none, none, none⟩

namespace Query

/-- The rows that satisfy a further condition. -/
def filtered (q : Query) (e : Expr) : Query :=
  { q with filter := some (match q.filter with
    | some f => f.conjoin e
    | none => e) }

/-- At most so many rows. -/
def limited (q : Query) (n : Int64) : Query := { q with limit := some n }

/-- The rows after so many. -/
def skipping (q : Query) (n : Int64) : Query := { q with offset := some n }

/-! ## Parts of statements -/

/-- The columns that are read: all of them, or those that are named, with their table. -/
def buildSelect (q : Query) (columns : List String) : CheckedBuilder :=
  if columns.isEmpty then return "SELECT *"
  else do
    let rendered ← columns.mapM fun name => do
      let c ← q.entity.schema.column name
      let e ← c.toExpr
      e.build
    return "SELECT " ++ String.intercalate "," rendered

/-- The condition, if there is one. -/
def buildWhere (q : Query) : Builder :=
  match q.filter with
  | some e => return " WHERE " ++ (← e.build)
  | none => return ""

/-- A clause of the page; zero is no clause. -/
def buildPage (clause : String) : Option Int64 → Builder
  | some n => do if n = 0 then return "" else return clause ++ (← Binder.add (.int n))
  | none => return ""

/-- A statement that is about a page of rows although it cannot be. -/
def pageRefused (q : Query) (statement : String) : Error :=
  .validation ("LIMIT/OFFSET cannot be applied to " ++ statement ++ " on " ++ q.entity.table)

/-- Whether the query has a page. -/
def isPaged (q : Query) : Bool := q.limit.any (· ≠ 0) || q.offset.any (· ≠ 0)

/-- Refuses a query with a page. -/
def rejectPage (q : Query) (statement : String) : Except Error Unit :=
  if q.isPaged then .error (q.pageRefused statement) else .ok ()

/-! ## Statements -/

/-- The statement that reads rows. -/
def fetchStatement (q : Query) (columns : List String) : Except Error Statement :=
  CheckedBuilder.statement do
    let select ← q.buildSelect columns
    let condition ← q.buildWhere
    let limit ← buildPage " LIMIT " q.limit
    let offset ← buildPage " OFFSET " q.offset
    return select ++ " FROM " ++ q.entity.table ++ condition ++ limit ++ offset

/-- The statement that reads the first row. -/
def fetchOneStatement (q : Query) (columns : List String) : Except Error Statement :=
  CheckedBuilder.statement do
    q.rejectPage "a single-row SELECT"
    let select ← q.buildSelect columns
    let condition ← q.buildWhere
    return select ++ " FROM " ++ q.entity.table ++ condition ++ " LIMIT 1"

/-- One assignment of an update. What is assigned may be an expression; a plain value has to be one
that the column accepts. -/
def buildAssignment (q : Query) (assignment : String × Operand) : CheckedBuilder := do
  let (name, operand) := assignment
  let c ← q.entity.schema.column name
  let e ← operand.toExpr
  -- what an expression gives is known to the server only
  match e with
  | .literal v => Instance.checkAssignment c v
  | _ => pure ()
  return name ++ "=" ++ (← e.build)

/-- An update that changes nothing. -/
def noAssignment (q : Query) : Error :=
  .validation ("UPDATE on " ++ q.entity.table ++ " requires at least one assignment")

/-- The statement that changes rows. -/
def updateStatement (q : Query) (assignments : List (String × Operand)) :
    Except Error Statement :=
  CheckedBuilder.statement do
    q.rejectPage "UPDATE"
    let sets ← assignments.mapM q.buildAssignment
    if sets.isEmpty then throw q.noAssignment
    let condition ← q.buildWhere
    return "UPDATE " ++ q.entity.table ++ " SET " ++ String.intercalate "," sets ++ condition

/-- The statement that deletes rows. -/
def deleteStatement (q : Query) : Except Error Statement :=
  CheckedBuilder.statement do
    q.rejectPage "DELETE"
    let condition ← q.buildWhere
    return "DELETE FROM " ++ q.entity.table ++ condition

/-- An instance that belongs to another entity. -/
def foreignInstance (q : Query) (i : Instance) : Error :=
  .state ("cannot insert a " ++ i.entity.name ++ " instance into " ++ q.entity.table)

/-- Whether the database gives the instance its identity, which then has to be read back. -/
def returnsGenerated (q : Query) (i : Instance) : Bool :=
  match q.entity.schema.identity with
  | some index => (i.cells[index]?.bind (·.value)).isNone
  | none => false

/-- The columns and values of a new row. -/
def buildRow (values : List (String × Value)) : Builder := do
  let placeholders ← values.mapM fun (_, v) => Binder.add v
  if values.isEmpty then return " DEFAULT VALUES"
  else return " (" ++ String.intercalate "," (values.map (·.1)) ++ ") VALUES (" ++
    String.intercalate "," placeholders ++ ")"

/-- The statement that stores an instance as a new row. -/
def insertStatement (q : Query) (i : Instance) : Except Error Statement :=
  if q.entity.same i.entity then
    .ok (Builder.statement do
      let row ← buildRow i.values
      return "INSERT INTO " ++ q.entity.table ++ row ++
        (if q.returnsGenerated i then " RETURNING *" else ""))
  else .error (q.foreignInstance i)

/-! ## Texts -/

/-- The debug text of a number that may be absent. -/
def debugCount : Option Int64 → String
  | some n => "Some(" ++ toString n.toInt ++ ")"
  | none => "None"

/-- The debug text of a query. -/
def debug (q : Query) : String :=
  "QueryExecutor \x7b entity: " ++ Text.quoted q.entity.name ++ ", filter: " ++
    (match q.filter with
    | some e => "Some(" ++ e.debug ++ ")"
    | none => "None") ++
    ", limit: " ++ debugCount q.limit ++ ", offset: " ++ debugCount q.offset ++ " \x7d"

end Query

end EntityMapper
