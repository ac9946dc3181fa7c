import EntityMapper.Proofs.Registration

/-!
# What may stand beside a column

A combinator looks at the one node that it makes, and at that only if a column stands on its left.
`ColumnRef.Allows` says what the column asks for, and `Expr.IsFitting` that a node has it. All nodes
of an expression that came from combinators are fitting (`combinators_make_fitting_nodes`), since
every one of them was new once and no combinator changes an operand.

IN asks the items of a list for what `=` would ask of them, but only on a column of single values.
On an array column `=` takes arrays and IN takes lists of items, so that IN refuses what the column
can equal and takes what it never can (`within_iff_equals`).
-/

namespace EntityMapper

/-! ## What a column asks for -/

namespace NativeType

/-- No kind of single values takes an array. -/
theorem accepts_array (n : NativeType) (items : List Value) : n.accepts (.array items) = false := by
  cases n <;> rfl

end NativeType

namespace ColumnType

theorem isNumeric_iff (type : ColumnType) :
    type.isNumeric = true ↔ type.isArray = false ∧ type.native.isNumeric = true := by
  simp [isNumeric]

end ColumnType

theorem Value.isNull_iff (v : Value) : v.isNull = true ↔ v = .null := by
  cases v <;> simp [isNull]

namespace ColumnRef

/-- Whether a column holds single numbers. -/
def HoldsNumbers (c : ColumnRef) : Prop := c.type.isArray = false ∧ c.type.native.isNumeric = true

/-- What a column asks of the operator after it and of a literal behind the operator. -/
structure Allows (c : ColumnRef) (op : BinaryOp) (right : Expr) : Prop where
  numbers : op.isArithmetic = true → c.HoldsNumbers
  number : op.isArithmetic = true → ∀ v, right = .literal v → v = .null ∨ v.isNumeric = true
  list : op = .isIn → ∀ v, right = .literal v →
    ∃ items, v = .array items ∧ ∀ w ∈ items, c.type.native.accepts w = true
  value : op.isArithmetic = false → op ≠ .isIn → ∀ v, right = .literal v → c.type.accepts v = true

/-- Something that is no literal only has to stand behind a suitable operator. -/
theorem allows_of_not_literal {c : ColumnRef} {op : BinaryOp} {right : Expr}
    (h : ∀ v, right ≠ .literal v) : c.Allows op right ↔ (op.isArithmetic = true → c.HoldsNumbers) :=
  ⟨Allows.numbers, fun hop => ⟨hop, fun _ v hv => absurd hv (h v), fun _ v hv => absurd hv (h v),
    fun _ _ v hv => absurd hv (h v)⟩⟩

end ColumnRef

namespace Expr

variable {c : ColumnRef} {op : BinaryOp} {e l r : Expr} {err : Error}

theorem literalFits_in (type : ColumnType) (v : Value) : literalFits type .isIn v = true ↔
    ∃ items, v = .array items ∧ ∀ w ∈ items, type.native.accepts w = true := by
  have hitem : ∀ w, type.element.accepts w = type.native.accepts w :=
    fun w => ColumnType.accepts_single rfl w
  cases v <;> simp [literalFits, hitem]

theorem literalFits_arithmetic (type : ColumnType) (h : op.isArithmetic = true) (v : Value) :
    literalFits type op v = true ↔ v = .null ∨ v.isNumeric = true := by
  have hin : op ≠ .isIn := by rintro rfl; cases h
  simp [literalFits, hin, h, Value.isNull_iff]

theorem literalFits_other (type : ColumnType) (h : op.isArithmetic = false) (hin : op ≠ .isIn)
    (v : Value) : literalFits type op v = type.accepts v := by
  simp [literalFits, hin, h]

theorem allows_literal {v : Value} : c.Allows op (.literal v) ↔
    (op.isArithmetic = true → c.HoldsNumbers) ∧ literalFits c.type op v = true := by
  constructor
  · intro h
    refine ⟨h.numbers, ?_⟩
    by_cases hin : op = .isIn
    · subst hin
      exact (literalFits_in c.type v).mpr (h.list rfl v rfl)
    · cases harith : op.isArithmetic with
      | true => exact (literalFits_arithmetic c.type harith v).mpr (h.number harith v rfl)
      | false =>
          rw [literalFits_other c.type harith hin]
          exact h.value harith hin v rfl
  · rintro ⟨hnumbers, hfits⟩
    refine ⟨hnumbers, ?_, ?_, ?_⟩
    · rintro harith w ⟨⟩
      exact (literalFits_arithmetic c.type harith v).mp hfits
    · rintro rfl w ⟨⟩
      exact (literalFits_in c.type v).mp hfits
    · rintro harith hin w ⟨⟩
      rwa [literalFits_other c.type harith hin] at hfits

/-- Only the operator is looked at before something that is no literal. -/
theorem checkOperand_of_not_literal (h : ∀ v, r ≠ .literal v) : checkOperand c op r
    = if op.isArithmetic && !c.type.isNumeric then .error (notArithmetic c op) else .ok () := by
  cases r with
  | literal v => exact absurd rfl (h v)
  | column d => rfl
  | binary x op' y => rfl
  | unary op' x => rfl

/-- **The check of an operand finds exactly what the column asks for.** -/
theorem checkOperand_eq_ok : checkOperand c op r = .ok () ↔ c.Allows op r := by
  have hnumbers : (op.isArithmetic = true → c.HoldsNumbers)
      ↔ (op.isArithmetic && !c.type.isNumeric) = false := by
    rw [ColumnRef.HoldsNumbers, ← c.type.isNumeric_iff]
    cases op.isArithmetic <;> cases c.type.isNumeric <;> decide
  by_cases hliteral : ∃ v, r = .literal v
  · obtain ⟨v, rfl⟩ := hliteral
    rw [allows_literal, hnumbers, checkOperand]
    cases op.isArithmetic && !c.type.isNumeric <;> cases literalFits c.type op v <;> simp
  · have hother : ∀ v, r ≠ .literal v := fun v hv => hliteral ⟨v, hv⟩
    rw [ColumnRef.allows_of_not_literal hother, hnumbers, checkOperand_of_not_literal hother]
    cases op.isArithmetic && !c.type.isNumeric <;> simp

/-- Whatever the check refuses is a matter of types. -/
theorem checkOperand_eq_error (h : checkOperand c op r = .error err) :
    err.isTypeMismatch = true := by
  unfold checkOperand at h
  split at h
  · cases h
    rfl
  · split at h
    · split at h
      · cases h
      · cases h
        rfl
    · cases h

/-! ## Nodes -/

/-- All nodes of an expression, the expression itself first. -/
def nodes : Expr → List Expr
  | .column c => [.column c]
  | .literal v => [.literal v]
  | .binary left op right => .binary left op right :: (left.nodes ++ right.nodes)
  | .unary op operand => .unary op operand :: operand.nodes

/-- Whether the column directly under a node, if there is one, has what it asks for. -/
def IsFitting : Expr → Prop
  | .binary (.column c) op right => c.Allows op right
  | .unary .neg (.column c) => c.HoldsNumbers
  | _ => True

/-- **Two expressions are joined exactly if the new node is fitting.** -/
theorem combine_eq_ok :
    l.combine op r = .ok e ↔ e = .binary l op r ∧ (Expr.binary l op r).IsFitting := by
  cases l with
  | column c =>
      rw [combine, IsFitting, ← checkOperand_eq_ok]
      cases checkOperand c op r <;> simp [Except.map, eq_comm]
  | literal v => simp [combine, IsFitting, eq_comm]
  | binary x op' y => simp [combine, IsFitting, eq_comm]
  | unary op' x => simp [combine, IsFitting, eq_comm]

theorem combine_eq_error (h : l.combine op r = .error err) :
    err.isTypeMismatch = true ∧ ¬(Expr.binary l op r).IsFitting := by
  constructor
  · cases l with
    | column c =>
        rw [combine] at h
        cases hcheck : checkOperand c op r with
        | ok u => rw [hcheck] at h; cases h
        | error err' => rw [hcheck] at h; cases h; exact checkOperand_eq_error hcheck
    | literal v => cases h
    | binary x op' y => cases h
    | unary op' x => cases h
  · intro hfits
    rw [combine_eq_ok.mpr ⟨rfl, hfits⟩] at h
    cases h

/-- **A minus sign is put before an expression exactly if the new node is fitting.** -/
theorem neg_eq_ok : e.neg = .ok r ↔ r = .unary .neg e ∧ (Expr.unary .neg e).IsFitting := by
  cases e with
  | column c =>
      rw [neg, IsFitting, ColumnRef.HoldsNumbers, ← c.type.isNumeric_iff]
      cases c.type.isNumeric <;> simp [eq_comm]
  | literal v => simp [neg, IsFitting, eq_comm]
  | binary x op' y => simp [neg, IsFitting, eq_comm]
  | unary op' x => simp [neg, IsFitting, eq_comm]

theorem neg_eq_error (h : e.neg = .error err) :
    err.isTypeMismatch = true ∧ ¬(Expr.unary .neg e).IsFitting := by
  constructor
  · cases e with
    | column c =>
        rw [neg] at h
        split at h
        · cases h
        · cases h
          rfl
    | literal v => cases h
    | binary x op' y => cases h
    | unary op' x => cases h
  · intro hfits
    rw [neg_eq_ok.mpr ⟨rfl, hfits⟩] at h
    cases h

end Expr

/-! ## What comes from combinators -/

namespace Operand

variable {o left right : Operand} {op : BinaryOp} {e : Expr} {err : Error}

/-- What combinators can be applied to: columns, values, and what combinators gave. -/
inductive Arises : Operand → Prop where
  | column (c : Column) : Arises (.column c)
  | value (v : Value) : Arises (.value v)
  /-- A column or a value as an expression. -/
  | converted {o : Operand} {e : Expr} : Arises o → o.toExpr = .ok e → Arises (.expr e)
  | combined {left right : Operand} {op : BinaryOp} {e : Expr} :
      Arises left → Arises right → left.combine op right = .ok e → Arises (.expr e)
  | denied {o : Operand} {e : Expr} : Arises o → o.not = .ok e → Arises (.expr e)
  | negated {o : Operand} {e : Expr} : Arises o → o.neg = .ok e → Arises (.expr e)

/-- A condition is the column as any expression has it. -/
theorem toExpr_of_toCondition {c : Column} {symbol : String} (h : c.toCondition symbol = .ok e) :
    c.toExpr = .ok e := by
  obtain ⟨x, hx, h⟩ := bind_eq_ok.mp h
  split at h
  · cases h
    exact hx
  · cases h

/-- A left operand is the operand as any expression has it. -/
theorem toExpr_of_toLeft (h : left.toLeft op = .ok e) : left.toExpr = .ok e := by
  cases left with
  | column c =>
      rw [toLeft] at h
      split at h
      · exact toExpr_of_toCondition h
      · exact h
  | expr x => exact h
  | value v => exact h

/-- Converting fails for columns without table only. -/
theorem toExpr_eq_error (h : o.toExpr = .error err) :
    err.isBinding = true ∧ ∃ c, o = .column c ∧ c.isBound = false := by
  cases o with
  | column c =>
      cases hb : c.binding with
      | some b =>
          simp [toExpr, Column.toExpr, Column.toRef, hb, Except.map] at h
      | none =>
          simp only [toExpr, Column.toExpr, Column.toRef, hb, Except.map, Except.error.injEq] at h
          subst h
          exact ⟨rfl, c, rfl, by simp [Column.isBound, hb]⟩
  | expr x => cases h
  | value v => cases h

theorem combine_eq_ok (h : left.combine op right = .ok e) :
    ∃ l r, left.toExpr = .ok l ∧ right.toExpr = .ok r ∧ e = .binary l op r ∧
      (Expr.binary l op r).IsFitting := by
  obtain ⟨l, hl, h⟩ := bind_eq_ok.mp h
  obtain ⟨r, hr, h⟩ := bind_eq_ok.mp h
  exact ⟨l, r, toExpr_of_toLeft hl, hr, Expr.combine_eq_ok.mp h⟩

theorem not_eq_ok (h : o.not = .ok e) : ∃ x, o.toExpr = .ok x ∧ e = .unary .not x := by
  cases o with
  | column c =>
      obtain ⟨x, hx, rfl⟩ := map_eq_ok.mp h
      exact ⟨x, toExpr_of_toCondition hx, rfl⟩
  | expr x => cases h; exact ⟨x, rfl, rfl⟩
  | value v => cases h; exact ⟨.literal v, rfl, rfl⟩

theorem neg_eq_ok (h : o.neg = .ok e) :
    ∃ x, o.toExpr = .ok x ∧ e = .unary .neg x ∧ (Expr.unary .neg x).IsFitting := by
  obtain ⟨x, hx, h⟩ := bind_eq_ok.mp h
  exact ⟨x, hx, Expr.neg_eq_ok.mp h⟩

/-- Nothing unfitting is under a node that came from combinators: every node was the newest once. -/
theorem isFitting_of_arises (h : o.Arises) :
    ∀ e, o.toExpr = .ok e → ∀ n ∈ e.nodes, n.IsFitting := by
  induction h with
  | column c =>
      intro e he n hn
      obtain ⟨ref, -, rfl⟩ := map_eq_ok.mp he
      rw [List.mem_singleton.mp hn]
      trivial
  | value v =>
      intro e he n hn
      cases he
      rw [List.mem_singleton.mp hn]
      trivial
  | converted _ hx ih => rintro _ ⟨⟩; exact ih _ hx
  | combined _ _ hx ihl ihr =>
      rintro _ ⟨⟩
      obtain ⟨l, r, hl, hr, rfl, hfits⟩ := combine_eq_ok hx
      intro n hn
      rcases List.mem_cons.mp hn with rfl | hn
      · exact hfits
      · rcases List.mem_append.mp hn with hn | hn
        · exact ihl l hl n hn
        · exact ihr r hr n hn
  | denied _ hx ih =>
      rintro _ ⟨⟩
      obtain ⟨x, hexpr, rfl⟩ := not_eq_ok hx
      intro n hn
      rcases List.mem_cons.mp hn with rfl | hn
      · trivial
      · exact ih x hexpr n hn
  | negated _ hx ih =>
      rintro _ ⟨⟩
      obtain ⟨x, hexpr, rfl, hfits⟩ := neg_eq_ok hx
      intro n hn
      rcases List.mem_cons.mp hn with rfl | hn
      · exact hfits
      · exact ih x hexpr n hn

/-- An expression refuses another operand for two reasons: the operand has no table, or the one new
node would not be fitting. -/
theorem combine_eq_error {l : Expr} (h : (Operand.expr l).combine op right = .error err) :
    (err.isBinding = true ∧ ∃ c, right = .column c ∧ c.isBound = false) ∨
      (err.isTypeMismatch = true ∧
        ∃ r, right.toExpr = .ok r ∧ ¬(Expr.binary l op r).IsFitting) := by
  change (do let r ← right.toExpr; l.combine op r) = _ at h
  cases hr : right.toExpr with
  | error err' =>
      rw [hr] at h
      cases h
      exact .inl (toExpr_eq_error hr)
  | ok r =>
      rw [hr] at h
      obtain ⟨hmismatch, hfits⟩ := Expr.combine_eq_error h
      exact .inr ⟨hmismatch, r, rfl, hfits⟩

/-- **Combinators make fitting nodes only.**

Whatever expression comes from columns and values by any combinators, each of its nodes with a
column under it has what the column asks for. A combinator that succeeds makes one node: its
operator over what its operands are as expressions. A combinator of an expression fails for two
reasons only: the one node that it would make is not fitting, which is a mismatch of types, or its
operand is a column without table. -/
theorem combinators_make_fitting_nodes :
    (∀ e, (Operand.expr e).Arises → ∀ n ∈ e.nodes, n.IsFitting) ∧
    (∀ (left right : Operand) (op : BinaryOp) (e : Expr), left.combine op right = .ok e →
      ∃ l r, left.toExpr = .ok l ∧ right.toExpr = .ok r ∧ e = .binary l op r) ∧
    (∀ (o : Operand) (e : Expr), o.not = .ok e → ∃ x, o.toExpr = .ok x ∧ e = .unary .not x) ∧
    (∀ (o : Operand) (e : Expr), o.neg = .ok e → ∃ x, o.toExpr = .ok x ∧ e = .unary .neg x) ∧
    (∀ (l : Expr) (op : BinaryOp) (right : Operand) (err : Error),
      (Operand.expr l).combine op right = .error err →
        (err.isBinding = true ∧ ∃ c, right = .column c ∧ c.isBound = false) ∨
        (err.isTypeMismatch = true ∧
          ∃ r, right.toExpr = .ok r ∧ ¬(Expr.binary l op r).IsFitting)) ∧
    (∀ (x : Expr) (err : Error), (Operand.expr x).neg = .error err →
      err.isTypeMismatch = true ∧ ¬(Expr.unary .neg x).IsFitting) ∧
    ∀ x : Expr, (Operand.expr x).not = .ok (.unary .not x) := by
  refine ⟨fun e h => isFitting_of_arises h e rfl, fun left right op e h => ?_,
    fun _ _ h => not_eq_ok h, fun o e h => ?_, fun _ _ _ _ h => combine_eq_error h,
    fun _ _ h => Expr.neg_eq_error h, fun _ => rfl⟩
  · obtain ⟨l, r, hl, hr, he, -⟩ := combine_eq_ok h
    exact ⟨l, r, hl, hr, he⟩
  · obtain ⟨x, hx, he, -⟩ := neg_eq_ok h
    exact ⟨x, hx, he⟩

/-- A condition on a score, and two operands that it refuses. -/
theorem combinators_make_fitting_score :
    let score := Column.integer.bind "tasks" "score" none
    let c : ColumnRef := ⟨"tasks", "score", .scalar .integer⟩
    let next : Expr := .binary (.column c) .add (.literal (.int 1))
    let e : Expr := .unary .not (.binary next .lt (.literal (.text "high")))
    (Operand.column score).combine .add (.value (.int 1)) = .ok next ∧
      (Operand.expr e).Arises ∧ c.Allows .add (.literal (.int 1)) ∧
      (∃ err, (Operand.expr (.column c)).combine .eq (.value (.text "high")) = .error err ∧
        ¬c.Allows .eq (.literal (.text "high"))) ∧
      (∃ err, (Operand.expr next).combine .gt (.column .integer) = .error err ∧
        err.isBinding = true) := by
  intro score c next e
  have hnext : (Operand.column score).combine .add (.value (.int 1)) = .ok next := rfl
  have hless : (Operand.expr next).combine .lt (.value (.text "high"))
      = .ok (.binary next .lt (.literal (.text "high"))) := rfl
  have he : (Operand.expr e).Arises :=
    .denied (.combined (.combined (.column score) (.value _) hnext) (.value _) hless) rfl
  obtain ⟨hnodes, -, -, -, hfails, -, -⟩ := combinators_make_fitting_nodes
  refine ⟨hnext, he, hnodes e he next (by simp [e, next, Expr.nodes]), ⟨_, rfl, ?_⟩, ⟨_, rfl, ?_⟩⟩
  · rcases hfails (.column c) .eq (.value (.text "high")) _ rfl with ⟨h, -⟩ | ⟨-, r, hr, hnot⟩
    · cases h
    · cases hr
      exact hnot
  · rcases hfails next .gt (.column .integer) _ rfl with ⟨h, -⟩ | ⟨h, -⟩
    · exact h
    · cases h

end Operand

/-! ## A list of values after IN -/

/-- The column of single values of its kind, under the same name. -/
def Column.ofItems (c : Column) : Column := { c with isArray := false, arrayLength := none }

namespace Operand

/-- Whether two operands are joined by an operator. -/
def Joins (left : Operand) (op : BinaryOp) (right : Operand) : Prop :=
  ∃ e, left.combine op right = .ok e

/-- A bound column is joined to what it allows. -/
theorem joins_column {c : Column} {b : Binding} {op : BinaryOp} (hb : c.binding = some b)
    (hop : op.isBoolean = false) (v : Value) :
    Joins (.column c) op (.value v)
      ↔ ColumnRef.Allows ⟨b.table, b.name, c.type⟩ op (.literal v) := by
  have hleft : toLeft op (.column c) = .ok (.column ⟨b.table, b.name, c.type⟩) := by
    simp [toLeft, hop, Column.toExpr, Column.toRef, hb, Except.map]
  constructor
  · rintro ⟨e, he⟩
    obtain ⟨l, r, hl, hr, -, hfits⟩ := combine_eq_ok he
    rw [toExpr_of_toLeft hleft] at hl
    cases hl
    cases hr
    exact hfits
  · intro hallows
    have hjoined : (Expr.column ⟨b.table, b.name, c.type⟩).combine op (.literal v)
        = .ok (.binary (.column ⟨b.table, b.name, c.type⟩) op (.literal v)) :=
      Expr.combine_eq_ok.mpr ⟨rfl, hallows⟩
    refine ⟨.binary (.column ⟨b.table, b.name, c.type⟩) op (.literal v), ?_⟩
    rw [combine, hleft]
    exact hjoined

theorem joins_in {c : Column} (hb : c.isBound = true) (vs : List Value) :
    Joins (.column c) .isIn (.value (.array vs)) ↔ ∀ v ∈ vs, c.native.accepts v = true := by
  obtain ⟨b, hb⟩ := Option.isSome_iff_exists.mp hb
  rw [joins_column hb rfl, Expr.allows_literal, Expr.literalFits_in]
  simp [BinaryOp.isArithmetic, Column.type]

theorem joins_eq {c : Column} (hb : c.isBound = true) (v : Value) :
    Joins (.column c) .eq (.value v) ↔ c.type.accepts v = true := by
  obtain ⟨b, hb⟩ := Option.isSome_iff_exists.mp hb
  have hother : BinaryOp.eq ≠ .isIn := by decide
  rw [joins_column hb rfl, Expr.allows_literal, Expr.literalFits_other _ rfl hother]
  simp [BinaryOp.isArithmetic]

/-- **IN takes a list if `=` takes each of its items**, on columns of single values and no others.

IN takes a list exactly if `=` on the column of the items takes each item. So both agree about all
lists exactly if the column holds single values. On an array column they agree about no list with
a value in it: what both take is NULL alone. -/
theorem within_iff_equals {c : Column} (hb : c.isBound = true) :
    (∀ vs, Joins (.column c) .isIn (.value (.array vs)) ↔
      ∀ v ∈ vs, Joins (.column c.ofItems) .eq (.value v)) ∧
    ((∀ vs, Joins (.column c) .isIn (.value (.array vs)) ↔
      ∀ v ∈ vs, Joins (.column c) .eq (.value v)) ↔ c.isArray = false) ∧
    (c.isArray = true → ∀ vs, Joins (.column c) .isIn (.value (.array vs)) →
      (∀ v ∈ vs, Joins (.column c) .eq (.value v)) → ∀ v ∈ vs, v = .null) := by
  have hitems : ∀ vs, Joins (.column c) .isIn (.value (.array vs)) ↔
      ∀ v ∈ vs, Joins (.column c.ofItems) .eq (.value v) := fun vs => by
    rw [joins_in hb]
    refine forall₂_congr fun v _ => ?_
    rw [joins_eq (c := c.ofItems) hb, ColumnType.accepts_single rfl]
    rfl
  have hnull : c.isArray = true → ∀ vs, Joins (.column c) .isIn (.value (.array vs)) →
      (∀ v ∈ vs, Joins (.column c) .eq (.value v)) → ∀ v ∈ vs, v = .null := by
    intro harray vs hin heq v hv
    have hitem := (joins_in hb vs).mp hin v hv
    rcases (ColumnType.accepts_several harray v).mp ((joins_eq hb v).mp (heq v hv)) with
      rfl | ⟨items, rfl, -⟩
    · rfl
    · rw [NativeType.accepts_array] at hitem
      cases hitem
  refine ⟨hitems, ⟨fun hagree => ?_, fun hsingle vs => ?_⟩, hnull⟩
  · cases harray : c.isArray with
    | false => rfl
    | true =>
        -- the column can equal an empty array, which would have to be NULL
        have heq : ∀ v ∈ [Value.array []], Joins (.column c) .eq (.value v) := by
          intro v hv
          rw [List.mem_singleton.mp hv]
          exact (joins_eq hb _).mpr
            ((ColumnType.accepts_several harray _).mpr (.inr ⟨[], rfl, nofun⟩))
        have hempty := hnull harray _ ((hagree _).mpr heq) heq _ (List.mem_singleton.mpr rfl)
        cases hempty
  · rw [joins_in hb]
    refine forall₂_congr fun v _ => ?_
    rw [joins_eq hb, ColumnType.accepts_single hsingle]
    rfl

/-- A column of single numbers and one of arrays. -/
theorem within_iff_equals_score :
    let score := Column.integer.bind "tasks" "score" none
    let marks := Column.integer.asArray.bind "tasks" "marks" none
    score.isBound = true ∧ marks.isBound = true ∧
      (∀ vs, Joins (.column score) .isIn (.value (.array vs)) ↔
        ∀ v ∈ vs, Joins (.column score) .eq (.value v)) ∧
      (∀ vs, Joins (.column marks) .isIn (.value (.array vs)) ↔
        ∀ v ∈ vs, Joins (.column marks.ofItems) .eq (.value v)) := by
  intro score marks
  exact ⟨rfl, rfl, (within_iff_equals (c := score) rfl).2.1.mpr rfl,
    (within_iff_equals (c := marks) rfl).1⟩

/-- An array that a column can equal, and that is refused after IN. -/
theorem equal_not_within :
    let marks := Column.integer.asArray.bind "t" "tags" none
    let v : Value := .array [.int 1, .int 2]
    Joins (.column marks) .eq (.value v) ∧ ¬Joins (.column marks) .isIn (.value (.array [v])) := by
  intro marks v
  exact ⟨⟨_, rfl⟩, nofun⟩

end Operand

end EntityMapper
