import EntityMapper.Column.Type
import EntityMapper.Error
import EntityMapper.Expr.Operator
import EntityMapper.Value.Display

/-!
# Expressions

An expression is a tree of columns, literals and operators. Trees are built by combinators that
check types: what stands to the right of a column has to fit the column's type and the operator.
Operands that are no column are not looked into.
-/

namespace EntityMapper

/-- A column inside an expression. -/
structure ColumnRef where
  table : String
  name : String
  type : ColumnType
deriving DecidableEq, Repr

namespace ColumnRef

/-- The name with its table. -/
def qualifiedName (c : ColumnRef) : String := c.table ++ "." ++ c.name

/-- The words by which messages name the column. -/
def describe (c : ColumnRef) : String := c.type.name ++ " column " ++ c.qualifiedName

/-- The debug text of the column. -/
def debug (c : ColumnRef) : String :=
  "ColumnRef \x7b table: " ++ Text.quoted c.table ++ ", name: " ++ Text.quoted c.name ++
    ", ty: " ++ c.type.debug ++ " \x7d"

end ColumnRef

/-- An expression. -/
inductive Expr where
  | column (c : ColumnRef)
  /-- A value that is bound as a parameter. -/
  | literal (v : Value)
  | binary (left : Expr) (op : BinaryOp) (right : Expr)
  | unary (op : UnaryOp) (operand : Expr)
deriving Inhabited

namespace Expr

/-- Structural equality; literals are compared as values. -/
protected def beq : Expr → Expr → Bool
  | .column a, .column b => decide (a = b)
  | .literal a, .literal b => a == b
  | .binary l op r, .binary l' op' r' => Expr.beq l l' && decide (op = op') && Expr.beq r r'
  | .unary op e, .unary op' e' => decide (op = op') && Expr.beq e e'
  | _, _ => false

instance : BEq Expr := ⟨Expr.beq⟩

/-! ## Type checks -/

/-- The words by which messages name the kind of a value; an array is named by its first item that
is not NULL. -/
def describeValue : Value → String
  | .array items => ((items.find? fun v => !v.isNull).map (·.kindName)).getD "null" ++ "[]"
  | v => v.kindName

/-- Whether a literal may stand to the right of a column. -/
def literalFits (type : ColumnType) (op : BinaryOp) (v : Value) : Bool :=
  if op = .isIn then
    match v with
    | .array items => items.all type.element.accepts
    | _ => false
  else if op.isArithmetic then v.isNull || v.isNumeric
  else type.accepts v

/-- The type that messages say was expected to the right of a column. -/
def expectedName (type : ColumnType) (op : BinaryOp) : String :=
  if op = .isIn then type.element.name ++ "[]" else type.name

/-- An arithmetic operator after a column without arithmetic. -/
def notArithmetic (c : ColumnRef) (op : BinaryOp) : Error :=
  .typeMismatch c.describe ("arithmetic operator '" ++ op.symbol ++ "'")

/-- A literal that does not fit the column on its left. -/
def literalMismatch (type : ColumnType) (op : BinaryOp) (v : Value) : Error :=
  .typeMismatch (expectedName type op) (describeValue v)

/-- A minus sign before a column without arithmetic. -/
def notNegatable (c : ColumnRef) : Error :=
  .typeMismatch c.describe "unary '-'"

/-- Refuses an operator and a right operand that do not fit the column on their left. -/
def checkOperand (c : ColumnRef) (op : BinaryOp) (right : Expr) : Except Error Unit :=
  if op.isArithmetic && !c.type.isNumeric then .error (notArithmetic c op)
  else match right with
    | .literal v => if literalFits c.type op v then .ok () else .error (literalMismatch c.type op v)
    | _ => .ok ()

/-! ## Combinators -/

/-- Two operands joined by an operator. -/
def combine (left : Expr) (op : BinaryOp) (right : Expr) : Except Error Expr :=
  match left with
  | .column c => (checkOperand c op right).map fun _ => .binary left op right
  | _ => .ok (.binary left op right)

/-- Both conditions; whatever they are, nothing is checked. -/
def conjoin (left right : Expr) : Expr := .binary left .and right

/-- The condition that another one does not hold. -/
def not (e : Expr) : Expr := .unary .not e

/-- The opposite number. -/
def neg (e : Expr) : Except Error Expr :=
  match e with
  | .column c => if c.type.isNumeric then .ok (.unary .neg e) else .error (notNegatable c)
  | _ => .ok (.unary .neg e)

/-- The debug text of an expression. -/
def debug : Expr → String
  | .column c => "Column(" ++ c.debug ++ ")"
  | .literal v => "Literal(" ++ v.debug ++ ")"
  | .binary l op r =>
    "Binary \x7b left: " ++ debug l ++ ", op: " ++ op.debug ++ ", right: " ++ debug r ++ " \x7d"
  | .unary op e => "Unary \x7b op: " ++ op.debug ++ ", operand: " ++ debug e ++ " \x7d"

end Expr

end EntityMapper
