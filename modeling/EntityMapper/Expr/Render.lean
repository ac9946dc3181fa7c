import EntityMapper.Expr.Basic
import EntityMapper.Sql.Binder

/-!
# Rendering expressions

The text of an expression is built from left to right, and its literals are bound on the way. AND
and OR always bring their own brackets. Any other operand gets brackets only where its operator
binds less tightly than the one around it, or equally tightly on the right of it or as a comparison.
-/

namespace EntityMapper.Expr

open Sql

/-- Whether an operand of a binary operator is put into brackets. -/
def wrapsUnder (outer : BinaryOp) (onRight : Bool) : Expr → Bool
  | .binary _ op _ =>
    !op.isBoolean && (decide (op.precedence < outer.precedence) ||
      (op.precedence == outer.precedence && (onRight || op.isComparison)))
  | .unary op _ => decide (op.precedence < outer.precedence)
  | _ => false

/-- Whether the operand of a unary operator is put into brackets. -/
def wrapsUnderUnary (outer : UnaryOp) : Expr → Bool
  | .binary _ op _ => !op.isBoolean && decide (op.precedence < outer.precedence)
  | _ => false

/-- Builds the text of an expression. Of a list of values after IN each is bound by itself; the
empty list becomes a condition that never holds, and what was to be looked for is not built. -/
def build : Expr → Builder
  | .column c => return c.qualifiedName
  | .literal v => Binder.add v
  | .binary left .isIn (.literal (.array items)) =>
    if items.isEmpty then return "1=0"
    else do
      let needle ← Builder.bracketed (left.wrapsUnder .isIn false) (build left)
      let placeholders ← items.mapM Binder.add
      return needle ++ " IN (" ++ String.intercalate ", " placeholders ++ ")"
  | .binary left .isIn right => do
    let needle ← Builder.bracketed (left.wrapsUnder .isIn false) (build left)
    let haystack ← build right
    return needle ++ " IN (" ++ haystack ++ ")"
  | .binary left op right =>
    Builder.bracketed op.isBoolean do
      let l ← Builder.bracketed (left.wrapsUnder op false) (build left)
      let r ← Builder.bracketed (right.wrapsUnder op true) (build right)
      return l ++ " " ++ op.symbol ++ " " ++ r
  | .unary op operand => do
    let inner ← Builder.bracketed (operand.wrapsUnderUnary op) (build operand)
    return op.symbol ++ " " ++ inner

/-- The text and the parameters of an expression by itself. -/
def statement (e : Expr) : Statement := e.build.statement

/-- The text of an expression by itself. -/
def text (e : Expr) : String := e.statement.sql

end EntityMapper.Expr
