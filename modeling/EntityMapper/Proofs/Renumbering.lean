import EntityMapper.Expr.Operand
import EntityMapper.Proofs.Places

/-!
# Building after other parameters

A condition is seldom alone in its statement: what is assigned comes before it, and so do other
conditions. It is then built into a binder that already holds values, and its placeholders count on
from those. `renumber` says what that should do to a text, and looks at nothing but the text: a
dollar sign with digits gets another number if it is a token, and stays what it is inside a name.
Building does just that, unless a column was bound by hand to a name that reads like a placeholder.
-/

namespace EntityMapper

open Sql

namespace Sql

/-! ## Placeholders with other numbers -/

/-- A lexeme with `k` added to its number, if it is a placeholder. -/
def renumberLexeme (k : Nat) (w : List Char) : List Char :=
  if isPlaceholder w then (placeholder (placeholderNumber w + k)).toList else w

/-- The characters with `k` added to the number of each placeholder. -/
def renumber (k : Nat) (s : List Char) : List Char := (lexemes s).flatMap (renumberLexeme k)

/-- The text with `k` added to the number of each placeholder. -/
def renumbered (k : Nat) (s : String) : String := .ofList (renumber k s.toList)

theorem renumber_eq_replaced (k : Nat) (s : List Char) : renumber k s
    = replaced (fun c => [c]) (fun n => (placeholder (n + k)).toList) s := by
  refine List.flatMap_congr fun w _ => ?_
  have hplain : w.flatMap (fun c => [c]) = w := List.flatMap_singleton' w
  rw [replacedLexeme, hplain]
  rfl

example : renumbered 3 "t.a$1 = $1 AND t.b IN ($2, $10)" = "t.a$1 = $4 AND t.b IN ($5, $13)" := by
  decide

/-- Other numbers are those behind more parameters. -/
theorem Template.replaced_placeholders (k bound : Nat) (t : Template) :
    t.replaced (fun c => [c]) (fun n => (placeholder (n + k)).toList) bound
      = t.chars (bound + k) := by
  induction t generalizing bound with
  | nil => rfl
  | cons f t ih =>
      cases f with
      | text s =>
          have hplain : s.toList.flatMap (fun c => [c]) = s.toList := List.flatMap_singleton' _
          rw [replaced, chars, ih, hplain]
      | value v =>
          have hbound : bound + 1 + k = bound + k + 1 := by omega
          rw [replaced, chars, ih, hbound]

end Sql

/-! ## Expressions -/

namespace Expr

theorem text_eq_renumbered {e : Expr} (h : ∀ c ∈ e.columns, c.LacksPlaceholder) (k : Nat) :
    e.template.text k = renumbered k e.text := by
  have hchars := (e.placed_template h).replaced_chars (fun c => [c])
    (fun n => (placeholder (n + k)).toList) 0
  rw [Template.replaced_placeholders, Nat.zero_add, ← renumber_eq_replaced] at hchars
  rw [Expr.text_eq, Template.text, Template.text, renumbered, String.toList_ofList, hchars]

/-- **Building into a binder that holds values is renumbering.** The values that were there stay and
those of the expression come behind them, and the text is the expression's own with the number of
each placeholder raised by the number of values that were there. -/
theorem build_renumbers (e : Expr) (b : Binder) :
    (e.build.run b).2.values = b.values ++ e.statement.params ∧
      ((∀ c ∈ e.columns, c.LacksPlaceholder) →
        (e.build.run b).1 = renumbered b.values.length e.statement.sql) := by
  have hrun : e.build.run b = e.template.part b := by rw [e.build_eq_part]; rfl
  rw [hrun, e.statement_eq]
  refine ⟨rfl, fun h => ?_⟩
  exact (text_eq_renumbered h b.values.length).trans (congrArg _ e.text_eq)

/-- Behind nine values `$1` becomes `$10`; the one in the name of the column is no placeholder. -/
theorem build_renumbers_list :
    let price : Expr := .column ⟨"t", "price$1", .scalar .integer⟩
    let e : Expr := .binary (.binary price .gt (.literal (.int 5))) .and
      (.binary price .isIn (.literal (.array [.int 7, .int 8])))
    let b : Binder := ⟨List.replicate 9 .null⟩
    (∀ c ∈ e.columns, c.LacksPlaceholder) ∧
      e.statement.sql = "(t.price$1 > $1 AND t.price$1 IN ($2, $3))" ∧
      (e.build.run b).1 = "(t.price$1 > $10 AND t.price$1 IN ($11, $12))" ∧
      (e.build.run b).2.values = List.replicate 9 .null ++ [.int 5, .int 7, .int 8] := by
  intro price e b
  have hcolumns : ∀ c ∈ e.columns, c.LacksPlaceholder := by decide
  have hown : e.statement.sql = "(t.price$1 > $1 AND t.price$1 IN ($2, $3))" := by decide
  obtain ⟨hvalues, htext⟩ := build_renumbers e b
  refine ⟨hcolumns, hown, ?_, hvalues⟩
  rw [htext hcolumns, hown]
  decide

/-- A column that is bound by hand to a name that is no identifier brings a placeholder of its own,
and that one keeps its number. -/
theorem placeholder_in_name_stays :
    let column := Column.integer.bind "t" "a = $9 OR b" none
    let b : Binder := ⟨[.bool true]⟩
    ∃ e, (Operand.column column).combine .eq (.value (.int 1)) = .ok e ∧
      e.statement.sql = "t.a = $9 OR b = $1" ∧
      (e.build.run b).1 = "t.a = $9 OR b = $2" ∧
      renumbered b.values.length e.statement.sql = "t.a = $10 OR b = $2" ∧
      (e.build.run b).1 ≠ renumbered b.values.length e.statement.sql :=
  ⟨_, rfl, by decide, by decide, by decide, by decide⟩

end Expr

end EntityMapper
