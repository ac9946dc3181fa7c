import EntityMapper.Json.Printer
import EntityMapper.Value.Basic

/-!
# Texts of values

`display` is what messages show, `debug` names the kind of every value, and `toJson` is the value in
JSON, where only shape and content count: a byte string becomes an array of numbers, and identifiers
and timestamps become strings.
-/

namespace EntityMapper.Value

open Number

mutual

/-- The text that messages show. -/
def display : Value → String
  | .null => "NULL"
  | .bool b => if b then "true" else "false"
  | .int n => toString n.toInt
  | .float x => x.text .plain
  | .text s => Text.quoted s
  | .bytes b => "<" ++ toString b.length ++ " bytes>"
  | .uuid u => u.text
  | .timestamp t => t.text
  | .timestampTz t => t.text ++ " UTC"
  | .json j => j.compact
  | .array items => "[" ++ displayItems items ++ "]"

/-- Items with commas and blanks between them. -/
def displayItems : List Value → String
  | [] => ""
  | [item] => display item
  | item :: rest => display item ++ ", " ++ displayItems rest

end

mutual

/-- The value in JSON. -/
def toJson : Value → Json
  | .null => .null
  | .bool b => .bool b
  | .int n => .int n.toInt
  | .float x => if x.isFinite then .float x else .null
  | .text s => .str s
  | .bytes b => .arr (b.map fun byte => .int byte.toNat)
  | .uuid u => .str u.text
  | .timestamp t => .str t.isoText
  | .timestampTz t => .str (t.isoText ++ "Z")
  | .json j => j
  | .array items => .arr (toJsonItems items)

/-- The items in JSON. -/
def toJsonItems : List Value → List Json
  | [] => []
  | item :: rest => toJson item :: toJsonItems rest

end

mutual

/-- The text that names the kind of every value. -/
def debug : Value → String
  | .null => "Null"
  | .bool b => if b then "Bool(true)" else "Bool(false)"
  | .int n => "Int(" ++ toString n.toInt ++ ")"
  | .float x => "Float(" ++ x.text .literal ++ ")"
  | .text s => "Text(" ++ Text.quoted s ++ ")"
  | .bytes b => "Bytes([" ++ String.intercalate ", " (b.map fun byte => toString byte.toNat) ++ "])"
  | .uuid u => "Uuid(" ++ u.text ++ ")"
  | .timestamp t => "Timestamp(" ++ t.isoText ++ ")"
  | .timestampTz t => "TimestampTz(" ++ t.isoText ++ "Z)"
  | .json j => "Json(" ++ j.outline ++ ")"
  | .array items => "Array([" ++ debugItems items ++ "])"

/-- Debug texts of items with commas and blanks between them. -/
def debugItems : List Value → String
  | [] => ""
  | [item] => debug item
  | item :: rest => debug item ++ ", " ++ debugItems rest

end

end EntityMapper.Value
