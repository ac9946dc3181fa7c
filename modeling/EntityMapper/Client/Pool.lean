import EntityMapper.Error
import EntityMapper.Record
import EntityMapper.Sql.Binder

/-!
# Pools

A pool hands out connections, and a connection takes one statement at a time. The client asks no
more of a pool than this interface. A `ScriptedPool` answers from a queue, which is what trying out
a program without a database takes.
-/

namespace EntityMapper

open Sql

/-- What a client asks of a pool and of a connection that it hands out. -/
class Pool (σ : Type) where
  /-- Takes a connection. -/
  acquire : σ → Except Error Unit × σ
  /-- Gives the connection back. -/
  release : σ → σ
  /-- Sends a statement and gives the number of rows it is about. -/
  execute : Statement → σ → Except Error Nat × σ
  /-- Sends a statement and gives the rows it reads. -/
  fetch : Statement → σ → Except Error (List Record) × σ
  /-- Hands out no more connections. -/
  close : σ → σ

/-- An answer that is queued. -/
inductive Reply where
  | rows (records : List Record)
  | affected (n : Nat)

/-- A pool that answers each statement with the next reply of a queue. -/
structure ScriptedPool where
  /-- The replies that are left. -/
  replies : List Reply := []
  /-- The message with which the next statement fails. -/
  failure : Option String := none
  /-- Whether connections are refused. -/
  isClosed : Bool := false
  /-- How many connections were handed out. -/
  acquired : Nat := 0
  /-- How many came back. -/
  released : Nat := 0

namespace ScriptedPool

/-- A connection that a closed pool refuses. -/
def closedError : Error := .connection "pool is closed"

/-- The reply to the next statement: the failure that is set, which then is used up, or the first of
the queue. -/
def answer (p : ScriptedPool) : Except Error (Option Reply) × ScriptedPool :=
  match p.failure with
  | some message => (.error (.other message), { p with failure := none })
  | none => (.ok p.replies.head?, { p with replies := p.replies.tail })

/-- The number of rows in a reply; without reply, one. -/
def count : Option Reply → Nat
  | some (.affected n) => n
  | some (.rows records) => records.length
  | none => 1

/-- The rows in a reply; a number of rows has none. -/
def rows : Option Reply → List Record
  | some (.rows records) => records
  | _ => []

/-- Puts a reply at the end of the queue. -/
def enqueue (p : ScriptedPool) (reply : Reply) : ScriptedPool :=
  { p with replies := p.replies ++ [reply] }

/-- Makes the next statement fail. -/
def failNext (p : ScriptedPool) (message : String) : ScriptedPool :=
  { p with failure := some message }

instance : Pool ScriptedPool where
  acquire p := if p.isClosed then (.error closedError, p) else (.ok (), { p with
    acquired := p.acquired + 1 })
  release p := { p with released := p.released + 1 }
  execute _ p := (p.answer.1.map count, p.answer.2)
  fetch _ p := (p.answer.1.map rows, p.answer.2)
  close p := { p with isClosed := true }

end ScriptedPool

end EntityMapper
