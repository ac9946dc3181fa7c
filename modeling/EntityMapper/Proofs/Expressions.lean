import EntityMapper.Proofs.Pieces

/-!
# What the text of an expression says

Whatever the names in an expression are, its text is read as its template says, as long as they are
identifiers: operators and brackets stand at seams, and the literals arrive in the order of the
tree.
-/

namespace EntityMapper

open Sql

/-- Whether a column's name and its table's are identifiers. -/
def ColumnRef.IsNamed (c : ColumnRef) : Prop :=
  isIdentifier c.table = true ∧ isIdentifier c.name = true

instance (c : ColumnRef) : Decidable c.IsNamed :=
  inferInstanceAs (Decidable (isIdentifier c.table = true ∧ isIdentifier c.name = true))

namespace BinaryOp

/-- The tokens of an operator. -/
def tokens : BinaryOp → List Token
  | .and => [.word "AND"]
  | .or => [.word "OR"]
  | .like => [.word "LIKE"]
  | .ilike => [.word "ILIKE"]
  | .similarTo => [.word "SIMILAR", .word "TO"]
  | .isIn => [.word "IN"]
  | op => [.mark op.symbol]

theorem isSeparator_symbol (op : BinaryOp) : IsSeparator (" " ++ op.symbol ++ " ") op.tokens := by
  cases op <;> decide

end BinaryOp

namespace UnaryOp

/-- The token of an operator. -/
def token : UnaryOp → Token
  | .not => .word "NOT"
  | .neg => .mark "-"

theorem isLead_symbol (op : UnaryOp) : IsLead (op.symbol ++ " ") [op.token] := by
  cases op <;> decide

end UnaryOp

namespace Expr

/-! ## The order of an expression -/

/-- The columns of an expression from left to right. -/
def columns : Expr → List ColumnRef
  | .column c => [c]
  | .literal _ => []
  | .binary left _ right => left.columns ++ right.columns
  | .unary _ operand => operand.columns

/-- The literals of an expression from left to right. A list after IN gives its items, and what is
looked for in an empty list is left out. -/
def literals : Expr → List Value
  | .column _ => []
  | .literal v => [v]
  | .binary left .isIn (.literal (.array items)) =>
    if items.isEmpty then [] else left.literals ++ items
  | .binary left _ right => left.literals ++ right.literals
  | .unary _ operand => operand.literals

/-- Any operator but IN is rendered between its operands. -/
theorem template_operator {left right : Expr} {op : BinaryOp} (hop : op ≠ .isIn) :
    (Expr.binary left op right).template
      = binaryTemplate op (bracketed (left.wrapsUnder op false) left.template)
        (bracketed (right.wrapsUnder op true) right.template) := by
  rw [template]
  · exact fun items h => absurd h hop
  · exact hop

theorem literals_operator {left right : Expr} {op : BinaryOp} (hop : op ≠ .isIn) :
    (Expr.binary left op right).literals = left.literals ++ right.literals := by
  rw [literals]
  exact fun items h => absurd h hop

theorem values_bracketed (wraps : Bool) (t : Template) :
    (bracketed wraps t).values = t.values := by
  cases wraps
  · rfl
  · exact (Template.values_append t [.text ")"]).trans (List.append_nil _)

theorem values_listTemplate (items : List Value) : (listTemplate items).values = items := by
  induction items with
  | nil => rfl
  | cons v items ih =>
      cases items with
      | nil => rfl
      | cons w items => exact congrArg (v :: ·) ih

/-- **The parameters of an expression are its literals in the order of the tree.** -/
theorem values_template (e : Expr) : e.template.values = e.literals := by
  fun_induction Expr.template e with
  | case1 c => rfl
  | case2 v => rfl
  | case3 left items h => simp [literals, h, Template.values]
  | case4 left items h ih =>
      have hlist : (listTemplate items).parenthesized.values = items :=
        (values_bracketed true _).trans (values_listTemplate items)
      rw [Template.values_append, values_bracketed, ih, literals, if_neg h]
      exact congrArg (left.literals ++ ·) hlist
  | case5 left right h ih₁ ih₂ =>
      rw [Template.values_append, values_bracketed, ih₁, literals]
      · exact congrArg (left.literals ++ ·) ((values_bracketed true _).trans ih₂)
      · exact fun items _ => h items
  | case6 left op right h hop ih₁ ih₂ =>
      rw [binaryTemplate, values_bracketed, Template.values_append, values_bracketed, ih₁,
        literals_operator hop]
      exact congrArg (left.literals ++ ·) ((values_bracketed _ _).trans ih₂)
  | case7 op operand ih => exact (values_bracketed _ _).trans ih

/-! ## Expressions are read as they are meant -/

theorem readable_bracketed (wraps : Bool) {t : Template} (h : t.Readable) :
    (bracketed wraps t).Readable := by
  cases wraps
  · exact h
  · exact Template.readable_parenthesized h

theorem readable_listTemplate (items : List Value) : (listTemplate items).Readable := by
  have hcomma : IsSeparator ", " [.mark ","] := by decide
  refine Template.readable_joined hcomma fun t ht => ?_
  obtain ⟨v, -, rfl⟩ := List.mem_map.mp ht
  exact Template.readable_value v

theorem readable_in {left list : Template} (hl : left.Readable) (hr : list.Readable) :
    Template.Readable (left ++ .text " IN " :: list.parenthesized) :=
  Template.readable_separated BinaryOp.isIn.isSeparator_symbol hl
    (Template.readable_parenthesized hr)

theorem readable_binaryTemplate (op : BinaryOp) {left right : Template} (hl : left.Readable)
    (hr : right.Readable) : (binaryTemplate op left right).Readable :=
  readable_bracketed _ (Template.readable_separated op.isSeparator_symbol hl hr)

theorem isPhrase_qualifiedName {c : ColumnRef} (h : c.IsNamed) :
    IsPhrase c.qualifiedName [.column c.table c.name] := by
  have hdot : c.qualifiedName.toList = c.table.toList ++ '.' :: c.name.toList := by
    simp [ColumnRef.qualifiedName]
  refine ⟨?_, by simp [Token.placeholder?]⟩
  rw [hdot, tokens_qualified h.1 h.2]

/-- **An expression over named columns is read as its template says.** -/
theorem readable_template (e : Expr) (h : ∀ c ∈ e.columns, c.IsNamed) : e.template.Readable := by
  fun_induction Expr.template e with
  | case1 c =>
      exact Template.readable_text (isPhrase_qualifiedName (h c (by simp [columns])))
  | case2 v => exact Template.readable_value v
  | case3 left items hnil =>
      have hnever : IsPhrase "1=0" [.number 1, .mark "=", .number 0] := by decide
      exact Template.readable_text hnever
  | case4 left items hne ih =>
      exact readable_in (readable_bracketed _ (ih fun c hc => h c (by simp [columns, hc])))
        (readable_listTemplate items)
  | case5 left right hlist ih₁ ih₂ =>
      exact readable_in (readable_bracketed _ (ih₁ fun c hc => h c (by simp [columns, hc])))
        (ih₂ fun c hc => h c (by simp [columns, hc]))
  | case6 left op right hlist hop ih₁ ih₂ =>
      exact readable_binaryTemplate op
        (readable_bracketed _ (ih₁ fun c hc => h c (by simp [columns, hc])))
        (readable_bracketed _ (ih₂ fun c hc => h c (by simp [columns, hc])))
  | case7 op operand ih =>
      exact Template.readable_lead op.isLead_symbol
        (readable_bracketed _ (ih fun c hc => h c (by simpa [columns] using hc)))

theorem statement_pieces (e : Expr) (h : ∀ c ∈ e.columns, c.IsNamed) :
    e.statement.pieces = some e.template.pieces := by
  rw [e.statement_eq, Template.statement_pieces (e.readable_template h)]

end Expr

end EntityMapper
