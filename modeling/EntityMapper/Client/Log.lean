import EntityMapper.Client.Config
import EntityMapper.Query

/-!
# The log

A client logs each statement before it asks for a connection, each registration, and the creation of
all tables. A long statement is cut to the longest beginning that has no more bytes than allowed and
does not end inside a character.
-/

namespace EntityMapper

/-- What a logged statement does. -/
inductive StatementKind where
  | select
  | insert
  | update
  | delete
  | createTable
deriving DecidableEq, Repr

/-- The word for a kind of statement. -/
def StatementKind.word : StatementKind → String
  | .select => "select"
  | .insert => "insert"
  | .update => "update"
  | .delete => "delete"
  | .createTable => "create_table"

/-- An entry of the log. -/
inductive LogEntry where
  /-- A statement is about to be sent. -/
  | statement (entity : String) (kind : StatementKind) (paramCount : Nat) (sql : String)
  | registered (entity table : String) (columns : Nat) (identity : Option String)
  | createdTables (tables : Nat)
deriving DecidableEq, Repr

/-- The value of a field of a log entry. -/
inductive LogField where
  | count (n : Nat)
  | text (s : String)
deriving DecidableEq, Repr

namespace LogEntry

/-- The part of the program that an entry comes from. -/
def target : LogEntry → String
  | .statement .. => "bladeorm.sql"
  | .registered .. | .createdTables .. => "bladeorm"

/-- How important an entry is. -/
def level : LogEntry → String
  | .createdTables .. => "INFO"
  | .statement .. | .registered .. => "DEBUG"

/-- The names and values of an entry's fields. -/
def fields : LogEntry → List (String × LogField)
  | .statement entity kind paramCount sql =>
    [("entity", .text entity), ("statement", .text kind.word), ("param_count", .count paramCount),
      ("sql", .text sql)]
  | .registered entity table columns identity =>
    [("entity", .text entity), ("table", .text table), ("columns", .count columns),
      ("identity", .text (identity.getD "-")), ("message", .text "registered entity")]
  | .createdTables tables => [("tables", .count tables), ("message", .text "created tables")]

end LogEntry

/-- The last place between two characters of a text that is at most so many bytes behind its start.
Going back byte by byte, it is the first place that is not inside a character. -/
def boundaryBefore (s : String) : Nat → s.Pos
  | 0 => s.startPos
  | n + 1 =>
    if h : (⟨n + 1⟩ : String.Pos.Raw).IsValid s then s.pos ⟨n + 1⟩ h else boundaryBefore s n

/-- A text, cut if it has more than `max` bytes. -/
def truncateBytes (max : Nat) (s : String) : String :=
  if s.utf8ByteSize ≤ max then s else (s.sliceTo (boundaryBefore s max)).copy

/-- The text of a statement as it is logged: cut, with three dots, if it has more than `max`
bytes. -/
def loggedSql (max : Nat) (sql : String) : String :=
  if sql.utf8ByteSize ≤ max then sql else truncateBytes max sql ++ "..."

/-- The log entry of a statement. -/
def statementEntry (config : Config) (entity : String) (kind : StatementKind)
    (statement : Sql.Statement) : LogEntry :=
  .statement entity kind statement.params.length
    (loggedSql config.maxSqlLogLength statement.sql)

end EntityMapper
