import EntityMapper.Column.Basic
import EntityMapper.Expr.Basic

/-!
# Operands

Columns, expressions and plain values can all stand at either side of an operator. A column has to
be bound to a table first, and one that is to be joined by AND, OR or NOT has to hold single truth
values.
-/

namespace EntityMapper

namespace Column

/-- A column that belongs to no table. -/
def notBound (c : Column) : Error :=
  .binding (c.baseType ++ " column used in an expression before it was bound to a table")

/-- A column that is no condition, before or after a logical operator. -/
def notCondition (c : Column) (symbol : String) : Error :=
  .typeMismatch (c.type.name ++ " column " ++ c.name.getD "?")
    ("logical operator '" ++ symbol ++ "'")

/-- The column as an expression knows it. -/
def toRef (c : Column) : Except Error ColumnRef :=
  match c.binding with
  | some b => .ok ⟨b.table, b.name, c.type⟩
  | none => .error c.notBound

/-- The column as an expression. -/
def toExpr (c : Column) : Except Error Expr := c.toRef.map .column

/-- The column as a condition. -/
def toCondition (c : Column) (symbol : String) : Except Error Expr := do
  let e ← c.toExpr
  if c.type = .scalar .bool then return e else .error (c.notCondition symbol)

end Column

/-- What can stand at either side of an operator. -/
inductive Operand where
  /-- A column, bound or not. -/
  | column (c : Column)
  | expr (e : Expr)
  | value (v : Value)

namespace Operand

/-- The operand as an expression; fails for a column without table. -/
def toExpr : Operand → Except Error Expr
  | .column c => c.toExpr
  | .expr e => .ok e
  | .value v => .ok (.literal v)

/-- The left operand of an operator. -/
def toLeft (op : BinaryOp) : Operand → Except Error Expr
  | .column c => if op.isBoolean then c.toCondition op.symbol else c.toExpr
  | operand => operand.toExpr

/-- Joins two operands by an operator. -/
def combine (left : Operand) (op : BinaryOp) (right : Operand) : Except Error Expr := do
  let l ← left.toLeft op
  let r ← right.toExpr
  l.combine op r

/-- The condition that the operand does not hold. -/
def not : Operand → Except Error Expr
  | .column c => (c.toCondition UnaryOp.not.symbol).map (·.not)
  | operand => operand.toExpr.map (·.not)

/-- The opposite of the operand. -/
def neg (operand : Operand) : Except Error Expr := operand.toExpr.bind (·.neg)

end Operand

end EntityMapper
