/-!
# Operators

Each operator has a symbol and binds as tightly as its precedence says. The order is OR, AND, NOT,
then all comparisons, then addition, multiplication and power, and last the minus sign.
-/

namespace EntityMapper

/-- An operator between two operands. -/
inductive BinaryOp where
  | and
  | or
  | eq
  | ne
  | lt
  | le
  | gt
  | ge
  | like
  | ilike
  | similarTo
  | isIn
  | add
  | sub
  | mul
  | div
  | rem
  | pow
deriving DecidableEq, Repr

namespace BinaryOp

/-- The operator in SQL. -/
def symbol : BinaryOp → String
  | .and => "AND"
  | .or => "OR"
  | .eq => "="
  | .ne => "!="
  | .lt => "<"
  | .le => "<="
  | .gt => ">"
  | .ge => ">="
  | .like => "LIKE"
  | .ilike => "ILIKE"
  | .similarTo => "SIMILAR TO"
  | .isIn => "IN"
  | .add => "+"
  | .sub => "-"
  | .mul => "*"
  | .div => "/"
  | .rem => "%"
  | .pow => "^"

/-- The name of an operator in debug texts. -/
def debug : BinaryOp → String
  | .and => "And"
  | .or => "Or"
  | .eq => "Eq"
  | .ne => "Ne"
  | .lt => "Lt"
  | .le => "Le"
  | .gt => "Gt"
  | .ge => "Ge"
  | .like => "Like"
  | .ilike => "ILike"
  | .similarTo => "SimilarTo"
  | .isIn => "In"
  | .add => "Add"
  | .sub => "Sub"
  | .mul => "Mul"
  | .div => "Div"
  | .rem => "Rem"
  | .pow => "Pow"

/-- Joins two conditions. -/
def isBoolean : BinaryOp → Bool
  | .and | .or => true
  | _ => false

/-- Compares two values. -/
def isComparison : BinaryOp → Bool
  | .eq | .ne | .lt | .le | .gt | .ge | .like | .ilike | .similarTo | .isIn => true
  | _ => false

/-- Computes a number. -/
def isArithmetic : BinaryOp → Bool
  | .add | .sub | .mul | .div | .rem | .pow => true
  | _ => false

/-- How tightly an operator binds. -/
def precedence : BinaryOp → Nat
  | .or => 1
  | .and => 2
  | .eq | .ne | .lt | .le | .gt | .ge | .like | .ilike | .similarTo | .isIn => 4
  | .add | .sub => 5
  | .mul | .div | .rem => 6
  | .pow => 7

end BinaryOp

/-- An operator before one operand. -/
inductive UnaryOp where
  | not
  | neg
deriving DecidableEq, Repr

namespace UnaryOp

/-- The operator in SQL. -/
def symbol : UnaryOp → String
  | .not => "NOT"
  | .neg => "-"

/-- The name of an operator in debug texts. -/
def debug : UnaryOp → String
  | .not => "Not"
  | .neg => "Neg"

/-- How tightly an operator binds. -/
def precedence : UnaryOp → Nat
  | .not => 3
  | .neg => 8

end UnaryOp

end EntityMapper
