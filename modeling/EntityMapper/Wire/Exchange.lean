import EntityMapper.Sql.Binder
import EntityMapper.Wire.Decode
import EntityMapper.Wire.Encode

/-!
# An exchange with the server

A statement goes to the server in three steps: the server parses it and says how many parameters of
which types it takes, the client sends the parameters, and the server answers with rows and a tag.
The exchange ends at the first step that fails. What the server does is given beforehand, so that an
exchange is a function.
-/

namespace EntityMapper.Wire

open Sql

/-- When the server refuses a statement. -/
inductive Stage where
  /-- When it parses the statement. -/
  | parsing
  /-- When it executes the statement, after the rows. -/
  | executing
deriving DecidableEq, Repr

/-- An error that the server reports. -/
structure ServerError where
  stage : Stage
  severity : String
  text : String
deriving DecidableEq, Repr

/-- What the server does with a statement. -/
structure Server where
  params : List PgType
  columns : List (String × PgType)
  rows : List (List (Option (List UInt8)))
  /-- The tag that ends the answer. -/
  tag : String
  error : Option ServerError

/-- What the client wants to know about the answer. -/
inductive Request where
  /-- How many rows the statement was about. -/
  | execute
  | fetch
  | fetchOne
deriving DecidableEq, Repr

/-- What the client gets. -/
inductive Answer where
  | count (n : Nat)
  | records (records : List Record)
  | record (record : Option Record)

/-- Where the connection comes from. -/
inductive Source where
  /-- It is there already. -/
  | direct
  /-- It is taken from a pool, which may be closed. -/
  | pooled (isClosed : Bool)
deriving DecidableEq, Repr

/-- What happened: the outcome, the text the server got, and the parameters it got. -/
structure Transcript where
  outcome : Except Error Answer
  /-- The text, unless the server was not reached. -/
  sql : Option String
  /-- The parameters, unless they were not sent. -/
  bound : Option (List (Option (List UInt8)))

/-- A pool that hands out no more connections. -/
def poolClosed : Error := .pool "Pool has been closed"

/-- An error of the server. -/
def serverFailure (e : ServerError) : Error :=
  .query "db error" (some (e.severity ++ ": " ++ e.text))

/-- A number of parameters that is not the statement's. -/
def wrongCount (expected got : Nat) : Error :=
  .query ("expected " ++ toString expected ++ " parameters but got " ++ toString got) none

/-- A parameter that cannot be written. -/
def unencodable (index : Nat) (e : EncodeError) : Error :=
  .query ("error serializing parameter " ++ toString index) (some e.message)

/-- The bytes of the parameters from the position on; the first that cannot be written is the
error. -/
def encodeParams (index : Nat) : List PgType → List Value →
    Except Error (List (Option (List UInt8)))
  | type :: types, v :: values =>
    match v.encode type with
    | .error e => .error (unencodable index e)
    | .ok bytes => (encodeParams (index + 1) types values).map (bytes :: ·)
  | _, _ => .ok []

/-- The number of rows in a tag: what follows the last blank, if it is a number of 64 bits. -/
def tagCount (tag : String) : Nat :=
  let last := (tag.toList.reverse.takeWhile (· != ' ')).reverse
  let digits := match last with
    | '+' :: rest => rest
    | rest => rest
  let n := digits.foldl (fun n c => 10 * n + (c.toNat - '0'.toNat)) 0
  if !digits.isEmpty && digits.all Char.isDigit && n < 2 ^ 64 then n else 0

/-- The answer to an executed statement. All rows are read, also where only the first counts. -/
def Server.answer (server : Server) (request : Request) : Except Error Answer :=
  match server.error with
  | some e => .error (serverFailure e)
  | none =>
    match request with
    | .execute => .ok (.count (tagCount server.tag))
    | .fetch => (server.rows.mapM (decodeRow server.columns)).map .records
    | .fetchOne => (server.rows.mapM (decodeRow server.columns)).map fun rows => .record rows.head?

/-- The error with which the server refuses to parse, if it does. -/
def Server.parseError? (server : Server) : Option ServerError :=
  server.error.filter fun e => e.stage == .parsing

/-- Sends a statement over a connection. -/
def Server.exchange (server : Server) (request : Request) (s : Statement) : Transcript :=
  match server.parseError? with
  | some e => ⟨.error (serverFailure e), some s.sql, none⟩
  | none =>
    if s.params.length ≠ server.params.length then
      ⟨.error (wrongCount server.params.length s.params.length), some s.sql, none⟩
    else
      match encodeParams 0 server.params s.params with
      | .error e => ⟨.error e, some s.sql, none⟩
      | .ok bound => ⟨server.answer request, some s.sql, some bound⟩

/-- Sends a statement over a connection of a source. -/
def Server.call (server : Server) (source : Source) (request : Request) (s : Statement) :
    Transcript :=
  match source with
  | .pooled true => ⟨.error poolClosed, none, none⟩
  | _ => server.exchange request s

end EntityMapper.Wire
