import EntityMapper.Client.Log
import EntityMapper.Client.Pool

/-!
# Clients

A client owns a pool and the entities that are registered with it. Each operation takes a
connection, sends its statement and gives the connection back, whether the statement succeeds or
not. All of it is kept in the client's journal, in order, so that what was done can be compared with
what was meant.
-/

namespace EntityMapper

open Sql

/-- Something a client did. -/
inductive Event where
  | acquired
  | released
  | sent (statement : Statement)
  | logged (entry : LogEntry)

/-- A pool with the entities that use it. -/
structure Client (σ : Type) where
  /-- The number of the client. No two clients of a program have the same. -/
  id : Nat
  config : Config
  pool : σ
  /-- The registered entities, first one first. -/
  entities : List Entity := []
  /-- What was done so far, first event first. -/
  journal : List Event := []

/-- An operation of a client. What it did to the client stays also when it fails. -/
abbrev ClientM (σ α : Type) := ExceptT Error (StateM (Client σ)) α

namespace Client

variable {σ α : Type}

/-- A new client with a pool. Nothing is registered with it yet. -/
def connect (id : Nat) (config : Config) (pool : σ) : Client σ := { id, config, pool }

/-- The client after an event. -/
def note (c : Client σ) (e : Event) : Client σ := { c with journal := c.journal ++ [e] }

/-- Makes an entry in the log. -/
def log (entry : LogEntry) : ClientM σ Unit := modify fun c => c.note (.logged entry)

/-- Makes the entry of a statement, unless statements are not logged. -/
def logStatement (entity : String) (kind : StatementKind) (s : Statement) : ClientM σ Unit := do
  let config := (← get).config
  if config.logStatements then log (statementEntry config entity kind s)

/-- The outcome of a pool's operation, with the pool it leaves. -/
def onPool (operation : σ → Except Error α × σ) : ClientM σ α := do
  let c ← get
  let (outcome, pool) := operation c.pool
  set { c with pool }
  liftM outcome

variable [Pool σ]

/-- Does something with a connection, and gives it back even if that fails. -/
def withConnection (action : ClientM σ α) : ClientM σ α := do
  onPool Pool.acquire
  modify fun c => c.note .acquired
  let outcome ← ExceptT.mk (action.run.map .ok)
  modify fun c => { c with pool := Pool.release c.pool }.note .released
  liftM outcome

/-- Sends a statement on the connection that is held, and gives the number of rows. -/
def sendExecute (s : Statement) : ClientM σ Nat := do
  modify fun c => c.note (.sent s)
  onPool (Pool.execute s)

/-- Sends a statement on the connection that is held, and gives the rows. -/
def sendFetch (s : Statement) : ClientM σ (List Record) := do
  modify fun c => c.note (.sent s)
  onPool (Pool.fetch s)

/-- Logs and sends a statement that changes rows. -/
def execute (entity : String) (kind : StatementKind) (s : Statement) : ClientM σ Nat := do
  logStatement entity kind s
  withConnection (sendExecute s)

/-- Logs and sends a statement that reads rows. -/
def fetch (entity : String) (kind : StatementKind) (s : Statement) : ClientM σ (List Record) := do
  logStatement entity kind s
  withConnection (sendFetch s)

/-- Logs and sends a statement of which only the first row counts. -/
def fetchOne (entity : String) (kind : StatementKind) (s : Statement) :
    ClientM σ (Option Record) := do
  return (← fetch entity kind s).head?

/-! ## Entities -/

/-- Registers an entity; a shape that is refused leaves no trace. -/
def register (shape : Shape) : ClientM σ Entity := do
  let schema ← liftM (Schema.ofShape shape)
  log (.registered schema.name schema.table schema.size schema.identityName?)
  let c ← get
  let entity : Entity := ⟨⟨c.id, c.entities.length⟩, schema⟩
  set { c with entities := c.entities ++ [entity] }
  return entity

/-- Creates the table of an entity on the connection that is held. -/
def createTable (e : Entity) : ClientM σ Unit := do
  let s : Statement := ⟨e.schema.createTableSql, []⟩
  logStatement e.name .createTable s
  discard (sendExecute s)

/-- Creates the tables of all entities in the order of registration, on one connection; the first
failure ends it. -/
def createTables : ClientM σ Unit :=
  withConnection do
    let entities := (← get).entities
    entities.forM createTable
    log (.createdTables entities.length)

/-- Closes the pool. -/
def close : ClientM σ Unit := modify fun c => { c with pool := Pool.close c.pool }

end Client

end EntityMapper
