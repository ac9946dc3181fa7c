/-!
# Configuration

What a client is told about its pool and its log.
-/

namespace EntityMapper

/-- The settings of a client. -/
structure Config where
  /-- The greatest number of connections. -/
  maxPoolSize : Nat := 16
  /-- How long to wait for a connection, in milliseconds; without limit if absent. -/
  acquireTimeout : Option Nat := none
  /-- Whether statements are logged. -/
  logStatements : Bool := true
  /-- How many bytes of a statement are logged. -/
  maxSqlLogLength : Nat := 200
deriving DecidableEq, Repr

end EntityMapper
