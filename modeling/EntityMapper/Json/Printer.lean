import EntityMapper.Json.Basic
import EntityMapper.Number.Text
import EntityMapper.Text.Hex
import EntityMapper.Text.Quoted

/-!
# JSON texts

`compact` writes a value without any blank. `outline` is the debug text, which names the kind of
every value.
-/

namespace EntityMapper.Json

open Number

/-- How one character is written in a string: quotes, backslashes and controls are escaped. -/
def escapedChar (c : Char) : List Char :=
  if c = '"' ∨ c = '\\' then ['\\', c]
  else if c.toNat = 0x08 then ['\\', 'b']
  else if c = '\t' then ['\\', 't']
  else if c = '\n' then ['\\', 'n']
  else if c.toNat = 0x0C then ['\\', 'f']
  else if c = '\r' then ['\\', 'r']
  else if c.toNat < 0x20 then
    ['\\', 'u', '0', '0', Text.hexDigit (c.toNat / 16), Text.hexDigit (c.toNat % 16)]
  else [c]

/-- A string between double quotes. -/
def stringText (s : String) : String :=
  String.ofList ('"' :: s.toList.flatMap escapedChar ++ ['"'])

/-- The text of a double; what is no finite number has none. -/
def floatText (x : Binary64) : String :=
  if x.isFinite then x.text .json else "null"

mutual

/-- The text without blanks. -/
def compact : Json → String
  | .null => "null"
  | .bool b => if b then "true" else "false"
  | .int n => toString n
  | .float x => floatText x
  | .str s => stringText s
  | .arr items => "[" ++ compactItems items ++ "]"
  | .obj fields => "\x7b" ++ compactFields fields ++ "\x7d"

/-- Items with commas between them. -/
def compactItems : List Json → String
  | [] => ""
  | [item] => compact item
  | item :: rest => compact item ++ "," ++ compactItems rest

/-- Fields with commas between them. -/
def compactFields : List (String × Json) → String
  | [] => ""
  | [(name, value)] => stringText name ++ ":" ++ compact value
  | (name, value) :: rest => stringText name ++ ":" ++ compact value ++ "," ++ compactFields rest

end

mutual

/-- The debug text. -/
def outline : Json → String
  | .null => "Null"
  | .bool b => if b then "Bool(true)" else "Bool(false)"
  | .int n => "Number(" ++ toString n ++ ")"
  | .float x => "Number(" ++ floatText x ++ ")"
  | .str s => "String(" ++ Text.quoted s ++ ")"
  | .arr items => "Array [" ++ outlineItems items ++ "]"
  | .obj fields => "Object \x7b" ++ outlineFields fields ++ "\x7d"

/-- Debug texts of items with commas and blanks between them. -/
def outlineItems : List Json → String
  | [] => ""
  | [item] => outline item
  | item :: rest => outline item ++ ", " ++ outlineItems rest

/-- Debug texts of fields with commas and blanks between them. -/
def outlineFields : List (String × Json) → String
  | [] => ""
  | [(name, value)] => Text.quoted name ++ ": " ++ outline value
  | (name, value) :: rest =>
    Text.quoted name ++ ": " ++ outline value ++ ", " ++ outlineFields rest

end

end EntityMapper.Json
