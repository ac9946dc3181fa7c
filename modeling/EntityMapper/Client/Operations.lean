import EntityMapper.Client.Basic
import EntityMapper.Projection

/-!
# Reading and writing rows

Queries read and change rows through a client. Operations on an instance act on the instance and the
client together: if one fails, the instance is what it was before.
-/

namespace EntityMapper

variable {σ : Type}

namespace Query

variable [Pool σ]

/-- Reads the rows as instances. -/
def fetch (q : Query) : ClientM σ (List Instance) := do
  let s ← liftM (q.fetchStatement [])
  let records ← Client.fetch q.entity.name .select s
  return records.map (Instance.ofRecord q.entity)

/-- Reads some columns of the rows. -/
def fetchColumns (q : Query) (columns : List String) : ClientM σ (List Projection) := do
  let s ← liftM (q.fetchStatement columns)
  let records ← Client.fetch q.entity.name .select s
  return records.map Projection.ofRecord

/-- Reads the first row as an instance. -/
def fetchOne (q : Query) : ClientM σ (Option Instance) := do
  let s ← liftM (q.fetchOneStatement [])
  let record ← Client.fetchOne q.entity.name .select s
  return record.map (Instance.ofRecord q.entity)

/-- Reads some columns of the first row. -/
def fetchOneColumns (q : Query) (columns : List String) : ClientM σ (Option Projection) := do
  let s ← liftM (q.fetchOneStatement columns)
  let record ← Client.fetchOne q.entity.name .select s
  return record.map Projection.ofRecord

/-- Changes the rows and gives their number. -/
def update (q : Query) (assignments : List (String × Operand)) : ClientM σ Nat := do
  let s ← liftM (q.updateStatement assignments)
  Client.execute q.entity.name .update s

/-- Deletes the rows and gives their number. -/
def delete (q : Query) : ClientM σ Nat := do
  let s ← liftM q.deleteStatement
  Client.execute q.entity.name .delete s

end Query

/-- An operation on an instance through a client. What it did to both stays also when it fails. -/
abbrev InstanceM (σ α : Type) := ExceptT Error (StateM (Instance × Client σ)) α

namespace InstanceM

variable {α : Type}

/-- An operation of the client alone. -/
def onClient (action : ClientM σ α) : InstanceM σ α :=
  ExceptT.mk fun (i, c) =>
    let (outcome, c) := action.run.run c
    (outcome, (i, c))

/-- The instance as it is. -/
def current : InstanceM σ Instance := return (← get).1

/-- Puts another state of the instance in its place. -/
def replace (i : Instance) : InstanceM σ Unit := modify fun (_, c) => (i, c)

end InstanceM

/-- What saving did. -/
inductive SaveOutcome where
  | inserted
  /-- So many rows were changed. -/
  | updated (n : Nat)
  | unchanged
deriving DecidableEq, Repr

open InstanceM

/-- Sets a column of the instance. -/
def Instance.assign (name : String) (v : Value) : InstanceM σ Unit := do
  let i ← current
  replace (← liftM (i.set name v))

variable [Pool σ]

/-- Stores the instance as a new row of the query's entity, and takes over what the database
generated. -/
def Query.insert (q : Query) : InstanceM σ Unit := do
  let i ← current
  let s ← liftM (q.insertStatement i)
  if q.returnsGenerated i then
    let row ← onClient (Client.fetchOne q.entity.name .insert s)
    replace (match row with
      | some record => (i.merge record).persisted
      | none => i.persisted)
  else
    let _ ← onClient (Client.execute q.entity.name .insert s)
    replace i.persisted

namespace Instance

/-- Stores the instance: as a new row if it is not stored yet, else by an update of the dirty
columns of the row with the identity it was stored with. Without dirty columns nothing is sent. -/
def save : InstanceM σ SaveOutcome := do
  let i ← current
  if !i.isSaved then
    i.entity.all.insert
    return .inserted
  else
    -- the row has to be found even if there is nothing to write
    let condition ← liftM (i.identityFilter "save")
    if !i.isDirty then return .unchanged
    else
      let assignments := i.changes.map fun (name, v) => (name, Operand.value v)
      let n ← onClient ((i.entity.all.filtered condition).update assignments)
      replace i.persisted
      return .updated n

/-- Deletes the row with the identity that the instance was stored with. The instance can be stored
again, as a new row. -/
def delete : InstanceM σ Nat := do
  let i ← current
  if !i.isSaved then throw i.notSaved
  else
    let condition ← liftM (i.identityFilter "delete")
    let n ← onClient (i.entity.all.filtered condition).delete
    replace i.deleted
    return n

end Instance

end EntityMapper
