/-!
# Errors

Every operation of the library fails with one of these causes. The module that raises an error says
in a definition of its own what its text is; here are the kinds and what is written in front.
-/

namespace EntityMapper

/-- Why an operation failed. -/
inductive Error where
  /-- An entity is declared wrongly. -/
  | definition (message : String)
  /-- A column is used before it belongs to a table. -/
  | binding (message : String)
  /-- A value or an operand has the wrong type. -/
  | typeMismatch (expected found : String)
  /-- A value or a statement is refused by a check. -/
  | validation (message : String)
  /-- An operation does not fit the state of an instance. -/
  | state (message : String)
  /-- A name is not one of an entity's columns. -/
  | unknownColumn (entity column : String)
  /-- What is read-only was to be changed. -/
  | immutable (message : String)
  /-- A field of a row could not be read. -/
  | decode (column message : String)
  /-- There is no connection. -/
  | connection (message : String)
  /-- The exchange with the server failed; the cause is what the server or the codec said. -/
  | query (message : String) (cause : Option String)
  /-- No connection could be taken from the pool. -/
  | pool (message : String)
  /-- Any other failure. -/
  | other (message : String)
deriving DecidableEq, Repr

namespace Error

/-- The text of an error. -/
def message : Error → String
  | .definition m => "Definition error: " ++ m
  | .binding m => "Binding error: " ++ m
  | .typeMismatch expected found =>
    "Type mismatch: cannot compare " ++ expected ++ " with " ++ found
  | .validation m => "Validation error: " ++ m
  | .state m => "State error: " ++ m
  | .unknownColumn entity column => "Unknown column '" ++ column ++ "' on " ++ entity
  | .immutable m => "Immutable: " ++ m
  | .decode column m => "Decode error on column '" ++ column ++ "': " ++ m
  | .connection m => "Connection error: " ++ m
  | .query m _ => "Query error: " ++ m
  | .pool m => "Pool error: " ++ m
  | .other m => m

/-- Whether the error is in a declaration. -/
def isDefinition : Error → Bool
  | .definition _ => true
  | _ => false

/-- Whether a column without table was used. -/
def isBinding : Error → Bool
  | .binding _ => true
  | _ => false

/-- Whether a type was wrong. -/
def isTypeMismatch : Error → Bool
  | .typeMismatch _ _ => true
  | _ => false

/-- Whether a check refused. -/
def isValidation : Error → Bool
  | .validation _ => true
  | _ => false

/-- Whether the state of an instance did not fit. -/
def isState : Error → Bool
  | .state _ => true
  | _ => false

/-- Whether a column name was unknown. -/
def isUnknownColumn : Error → Bool
  | .unknownColumn _ _ => true
  | _ => false

/-- Whether something read-only was to be changed. -/
def isImmutable : Error → Bool
  | .immutable _ => true
  | _ => false

end Error

end EntityMapper
