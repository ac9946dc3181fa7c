import EntityMapper.Expr.Operator
import EntityMapper.Proofs.Pieces

/-!
# Reading statements back: operators

The server reads an expression from left to right with a stack of what is not finished. Before an
operator is put on the stack, everything on it that binds more tightly is finished, and operators of
the same level are grouped from the left or refused. This is how a grammar with declared precedences
is read. The levels below are the server's own; rendering has a table of its own, in which pattern
matching and IN bind no more tightly than a comparison.
-/

namespace EntityMapper

/-- How tightly the server binds an operator. -/
def BinaryOp.level : BinaryOp → Nat
  | .or => 1
  | .and => 2
  | .eq | .ne | .lt | .le | .gt | .ge => 4
  | .like | .ilike | .similarTo | .isIn => 5
  | .add | .sub => 6
  | .mul | .div | .rem => 7
  | .pow => 8

/-- Whether the server groups a row of operators of one level from the left; it refuses a row of
others. -/
def BinaryOp.chains : BinaryOp → Bool
  | .or | .and | .add | .sub | .mul | .div | .rem | .pow => true
  | _ => false

/-- How tightly the server binds an operator before an operand. -/
def UnaryOp.level : UnaryOp → Nat
  | .not => 3
  | .neg => 9

namespace Sql

/-- An expression as the server reads it. -/
inductive Reading where
  | column (table name : String)
  | value (v : Value)
  /-- A number in the text. -/
  | number (n : Nat)
  /-- The list after IN. -/
  | list (items : List Reading)
  | binary (left : Reading) (op : BinaryOp) (right : Reading)
  | unary (op : UnaryOp) (operand : Reading)

/-- Something that is not finished. -/
inductive Frame where
  | left (e : Reading) (op : BinaryOp)
  | before (op : UnaryOp)
  | bracket
  /-- The open bracket of a list with the items that are finished. -/
  | items (done : List Reading)

/-- How far an expression is read. -/
inductive ReaderState where
  | wants (stack : List Frame)
  | has (e : Reading) (stack : List Frame)
  /-- The first of two words of an operator was read. -/
  | similar (e : Reading) (stack : List Frame)

namespace Reading

/-- The operator that a piece is. -/
def operator? : Piece → Option BinaryOp
  | .token (.word "OR") => some .or
  | .token (.word "AND") => some .and
  | .token (.mark "=") => some .eq
  | .token (.mark "<>") | .token (.mark "!=") => some .ne
  | .token (.mark "<") => some .lt
  | .token (.mark "<=") => some .le
  | .token (.mark ">") => some .gt
  | .token (.mark ">=") => some .ge
  | .token (.word "LIKE") => some .like
  | .token (.word "ILIKE") => some .ilike
  | .token (.word "IN") => some .isIn
  | .token (.mark "+") => some .add
  | .token (.mark "-") => some .sub
  | .token (.mark "*") => some .mul
  | .token (.mark "/") => some .div
  | .token (.mark "%") => some .rem
  | .token (.mark "^") => some .pow
  | _ => none

/-- Finishes what binds more tightly than an operator of a level, and what has the same level if
these are grouped from the left. Fails if they cannot stand in a row. -/
def settle (level : Nat) (chains : Bool) : Reading → List Frame → Option (Reading × List Frame)
  | e, .left l op :: stack =>
    if level < op.level ∨ (level = op.level ∧ chains = true) then
      settle level chains (.binary l op e) stack
    else if level = op.level then none
    else some (e, .left l op :: stack)
  | e, .before op :: stack =>
    if level < op.level then settle level chains (.unary op e) stack
    else some (e, .before op :: stack)
  | e, stack => some (e, stack)

/-- Puts an operator after an operand. -/
def putOperator (op : BinaryOp) (e : Reading) (stack : List Frame) : Option ReaderState :=
  (settle op.level op.chains e stack).map fun (l, rest) => .wants (.left l op :: rest)

/-- Whether IN stands last, so that only a list can follow. -/
def awaitsList : List Frame → Bool
  | .left _ .isIn :: _ => true
  | _ => false

/-- Reads a piece where an operand has to follow. -/
def stepOperand (stack : List Frame) : Piece → Option ReaderState
  | .value v => some (.has (.value v) stack)
  | .token (.column table name) => some (.has (.column table name) stack)
  | .token (.number n) => some (.has (.number n) stack)
  | .token (.mark "(") => some (.wants (.bracket :: stack))
  | .token (.mark "-") => some (.wants (.before .neg :: stack))
  | .token (.word "NOT") => some (.wants (.before .not :: stack))
  | _ => none

/-- Reads the bracket of a list. -/
def stepList (stack : List Frame) : Piece → Option ReaderState
  | .token (.mark "(") => some (.wants (.items [] :: stack))
  | _ => none

/-- Closes a bracket after all that it holds is finished. -/
def close : Reading × List Frame → Option ReaderState
  | (e, .bracket :: stack) => some (.has e stack)
  | (e, .items done :: stack) => some (.has (.list (done ++ [e])) stack)
  | _ => none

/-- Ends an item of a list after all that it holds is finished. -/
def nextItem : Reading × List Frame → Option ReaderState
  | (e, .items done :: stack) => some (.wants (.items (done ++ [e]) :: stack))
  | _ => none

/-- Reads a piece after an operand. -/
def stepOperator (e : Reading) (stack : List Frame) : Piece → Option ReaderState
  | .token (.mark ")") => (settle 0 false e stack).bind close
  | .token (.mark ",") => (settle 0 false e stack).bind nextItem
  | .token (.word "SIMILAR") => some (.similar e stack)
  | p => (operator? p).bind fun op => putOperator op e stack

/-- Reads a piece. -/
def step : ReaderState → Piece → Option ReaderState
  | .wants stack, p => if awaitsList stack then stepList stack p else stepOperand stack p
  | .has e stack, p => stepOperator e stack p
  | .similar e stack, .token (.word "TO") => putOperator .similarTo e stack
  | .similar _ _, _ => none

/-- The expression that was read, if nothing is left open. -/
def finish : ReaderState → Option Reading
  | .has e stack =>
    match settle 0 false e stack with
    | some (e, []) => some e
    | _ => none
  | _ => none

/-- The expression that pieces are read as; none unless all of them are read. -/
def read (ps : List Piece) : Option Reading := (ps.foldlM step (.wants [])).bind finish

end Reading

end Sql

end EntityMapper
