import EntityMapper.Json.Printer
import EntityMapper.Value.Basic

/-!
# SQL literals

Where no parameter can stand, as in the default of a column, a value is written into the statement
itself. Everything that is not a number, a truth value or NULL stands between single quotes, with
every single quote inside doubled.
-/

namespace EntityMapper

open Number

namespace Sql

/-- The characters of a text with every single quote doubled. -/
def doubleQuotes : List Char → List Char
  | [] => []
  | c :: rest => if c = '\'' then '\'' :: '\'' :: doubleQuotes rest else c :: doubleQuotes rest

/-- A text between single quotes. -/
def quote (s : String) : String :=
  String.ofList ('\'' :: doubleQuotes s.toList ++ ['\''])

/-- The literal of a double; what is no finite number is a quoted name. -/
def floatLiteral (x : Binary64) : String :=
  if x.isNaN then "'NaN'"
  else if x.isInfinite then if x.isNegative then "'-Infinity'" else "'Infinity'"
  else x.text .literal

end Sql

namespace Value

open Sql

mutual

/-- The SQL literal of a value. -/
def literal : Value → String
  | .null => "NULL"
  | .bool b => if b then "TRUE" else "FALSE"
  | .int n => toString n.toInt
  | .float x => floatLiteral x
  | .text s => quote s
  | .bytes b => "'\\x" ++ String.ofList (Text.hexOfBytes b) ++ "'"
  | .uuid u => quote u.text
  | .timestamp t => quote t.text
  | .timestampTz t => quote (t.isoText ++ "+00:00")
  | .json j => quote j.compact
  | .array [] => "'\x7b\x7d'"
  | .array (item :: rest) => "ARRAY[" ++ literal item ++ literalTail rest ++ "]"

/-- The literals of the items after the first one, each after a comma and a blank. -/
def literalTail : List Value → String
  | [] => ""
  | item :: rest => ", " ++ literal item ++ literalTail rest

end

end Value

end EntityMapper
