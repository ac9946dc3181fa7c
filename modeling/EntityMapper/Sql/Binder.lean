import EntityMapper.Error
import EntityMapper.Value.Basic

/-!
# Building statements

A statement is built part by part, as text. Values never become text: where one has its place it is
added to the binder, which keeps it as a parameter and gives the placeholder that is written there.
One binder goes through all parts of a statement, from left to right, so that a part that comes
later is numbered from where the earlier ones end.
-/

namespace EntityMapper.Sql

/-- The placeholder of the parameter with a number. -/
def placeholder (number : Nat) : String := "$" ++ toString number

/-- A statement as it is sent. -/
structure Statement where
  /-- The text, with placeholders. -/
  sql : String
  /-- The parameters, in the order of their numbers. -/
  params : List Value

/-- The parameters of a statement while it is built. -/
structure Binder where
  values : List Value := []

/-- The text of a part of a statement, with the binder that it is built into. -/
abbrev Builder := StateM Binder String

/-- A part that can be refused. -/
abbrev CheckedBuilder := StateT Binder (Except Error) String

instance : MonadLift (StateM Binder) (StateT Binder (Except Error)) :=
  ⟨fun part b => .ok (part.run b)⟩

/-- Adds a value and gives its placeholder. -/
def Binder.add (v : Value) : Builder := fun b =>
  (placeholder (b.values.length + 1), ⟨b.values ++ [v]⟩)

/-- Puts a part into brackets if told so. -/
def Builder.bracketed (wraps : Bool) (part : Builder) : Builder := do
  let sql ← part
  return if wraps then "(" ++ sql ++ ")" else sql

/-- A part that is a whole statement, built into a binder of its own. -/
def Builder.statement (part : Builder) : Statement :=
  let (sql, b) := part.run {}
  ⟨sql, b.values⟩

/-- A part that is a whole statement, unless it is refused. -/
def CheckedBuilder.statement (part : CheckedBuilder) : Except Error Statement := do
  let (sql, b) ← part.run {}
  return ⟨sql, b.values⟩

end EntityMapper.Sql
