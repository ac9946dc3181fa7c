import EntityMapper.Error
import EntityMapper.Text.Quoted

/-!
# Identifiers

Names of tables and columns go into statements as they are, so only plain unquoted identifiers are
allowed: a letter or an underscore, then letters, digits, underscores and dollar signs, all ASCII.
-/

namespace EntityMapper.Sql

/-- Whether a character can begin an identifier. -/
def isIdentifierStart (c : Char) : Bool := c.isAlpha || c == '_'

/-- Whether a character can continue an identifier. -/
def isIdentifierRest (c : Char) : Bool := c.isAlphanum || c == '_' || c == '$'

/-- Whether the characters form an identifier. -/
def isIdentifierChars : List Char → Bool
  | [] => false
  | c :: rest => isIdentifierStart c && rest.all isIdentifierRest

/-- Whether a text is an identifier. -/
def isIdentifier (s : String) : Bool := isIdentifierChars s.toList

/-- What an identifier names. -/
inductive Named where
  | table
  | column
deriving DecidableEq, Repr

/-- The word for what is named. -/
def Named.word : Named → String
  | .table => "table"
  | .column => "column"

/-- A name without characters. -/
def emptyName (named : Named) : Error :=
  .definition (named.word ++ " name cannot be empty")

/-- A name that holds the character NUL. -/
def nulInName (named : Named) : Error :=
  .definition (named.word ++ " name cannot contain NUL character")

/-- A name that is no identifier. -/
def invalidName (named : Named) (name : String) : Error :=
  .definition ("invalid " ++ named.word ++ " name " ++ Text.quoted name ++
    ": expected [A-Za-z_][A-Za-z0-9_$]*")

/-- Refuses a name that is no identifier. -/
def checkIdentifier (named : Named) (name : String) : Except Error Unit :=
  if name.toList.isEmpty then .error (emptyName named)
  else if name.toList.any (·.toNat == 0) then .error (nulInName named)
  else if isIdentifier name then .ok ()
  else .error (invalidName named name)

end EntityMapper.Sql
