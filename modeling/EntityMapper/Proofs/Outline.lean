import EntityMapper.Proofs.Statements

/-!
# The outline of a statement

The outline of a template is its texts with open places between them. It decides the text of the
statement, so two requests with one outline give one text. Requests that differ in values only have
one outline: of values, it shows how many there are. A list after IN has to keep its length for
that, a limit or an offset has to stay zero or stay non-zero, and an instance has to have values in
the same columns.
-/

namespace EntityMapper

open Sql

/-! ## The outline of a template -/

namespace Sql.Template

/-- A template without its values: the texts and the places between them. -/
def outline (t : Template) : List (Option String) :=
  t.map fun
    | .text s => some s
    | .value _ => none

theorem outline_append (t u : Template) : outline (t ++ u) = outline t ++ outline u :=
  List.map_append

theorem outline_text_cons (s : String) (t : Template) :
    outline (.text s :: t) = some s :: outline t := rfl

/-- **The text of a template depends on its outline only.** -/
theorem chars_of_outline {t u : Template} (h : t.outline = u.outline) (bound : Nat) :
    t.chars bound = u.chars bound := by
  induction t generalizing u bound with
  | nil =>
      cases u with
      | nil => rfl
      | cons g u => cases h
  | cons f t ih =>
      cases u with
      | nil => cases h
      | cons g u =>
          obtain ⟨hhead, htail⟩ := List.cons.inj h
          -- a text cannot stand where a place is, so both templates go in step
          cases f with
          | text s =>
              cases g with
              | text s' => rw [chars, chars, Option.some.inj hhead, ih htail]
              | value v => cases hhead
          | value v =>
              cases g with
              | text s => cases hhead
              | value w => rw [chars, chars, ih htail]

theorem outline_parenthesized (t : Template) :
    t.parenthesized.outline = some "(" :: t.outline ++ [some ")"] :=
  outline_append (.text "(" :: t) [.text ")"]

theorem outline_joined (separator : String) (parts : List Template) :
    outline (joined separator parts)
      = ((parts.map outline).intersperse [some separator]).flatten := by
  induction parts with
  | nil => rfl
  | cons t parts ih =>
      cases parts with
      | nil => simp [joined]
      | cons u parts =>
          change (t ++ .text separator :: joined separator (u :: parts)).outline = _
          rw [outline_append, outline_text_cons, ih]
          simp only [List.map_cons, List.intersperse_cons_cons, List.flatten_cons, List.cons_append,
            List.nil_append]

/-- Of values in a list, only their number shows. -/
theorem outline_joined_values (separator : String) {vs ws : List Value}
    (h : vs.length = ws.length) :
    outline (joined separator (vs.map fun v => [.value v]))
      = outline (joined separator (ws.map fun v => [.value v])) := by
  have hparts : ∀ us : List Value, (us.map fun v => [Fragment.value v]).map outline
      = List.replicate us.length [none] := fun us => by
    rw [List.map_map]
    exact List.map_eq_replicate_iff.mpr fun v _ => rfl
  rw [outline_joined, outline_joined, hparts, hparts, h]

end Sql.Template

/-! ## Expressions that differ in values only -/

namespace Expr

/-- The number of items, if the expression is a list of values. -/
def listLength : Expr → Option Nat
  | .literal (.array items) => some items.length
  | _ => none

/-- Whether two expressions differ in the contents of literals only. A literal after IN is a list of
the same length in both, or a list in neither. -/
inductive SameShape : Expr → Expr → Prop where
  | column (c : ColumnRef) : SameShape (.column c) (.column c)
  | literal (v w : Value) : SameShape (.literal v) (.literal w)
  | binary {l l' r r' : Expr} {op : BinaryOp} (hl : SameShape l l') (hr : SameShape r r')
    (hlist : op = .isIn → r.listLength = r'.listLength) :
    SameShape (.binary l op r) (.binary l' op r')
  | unary {e e' : Expr} {op : UnaryOp} (h : SameShape e e') :
    SameShape (.unary op e) (.unary op e')

variable {e e' : Expr}

theorem SameShape.wrapsUnder (h : SameShape e e') (outer : BinaryOp) (onRight : Bool) :
    e.wrapsUnder outer onRight = e'.wrapsUnder outer onRight := by
  cases h <;> rfl

theorem SameShape.wrapsUnderUnary (h : SameShape e e') (outer : UnaryOp) :
    e.wrapsUnderUnary outer = e'.wrapsUnderUnary outer := by
  cases h <;> rfl

theorem outline_bracketed {t u : Template} (h : t.outline = u.outline) (wraps : Bool) :
    (bracketed wraps t).outline = (bracketed wraps u).outline := by
  cases wraps
  · exact h
  · exact (Template.outline_parenthesized t).trans (h ▸ (Template.outline_parenthesized u).symm)

theorem listLength_eq_some {n : Nat} (h : e.listLength = some n) :
    ∃ items, e = .literal (.array items) ∧ items.length = n := by
  unfold listLength at h
  split at h
  · rename_i items
    exact ⟨items, rfl, Option.some.inj h⟩
  · cases h

variable {l l' r r' : Expr}

/-- IN with lists of one length: both are empty, or both have as many places. -/
theorem outline_inList (hl : l.SameShape l') (ih : l.template.outline = l'.template.outline)
    {items items' : List Value} (hlength : items.length = items'.length) :
    (Expr.binary l .isIn (.literal (.array items))).template.outline
      = (Expr.binary l' .isIn (.literal (.array items'))).template.outline := by
  have hempty : items'.isEmpty = items.isEmpty := by
    rw [Bool.eq_iff_iff, List.isEmpty_iff_length_eq_zero, List.isEmpty_iff_length_eq_zero, hlength]
  rw [template, template, hempty, ← hl.wrapsUnder]
  split
  · rfl
  · rw [Template.outline_append, Template.outline_append, outline_bracketed ih,
      Template.outline_text_cons, Template.outline_text_cons, Template.outline_parenthesized,
      Template.outline_parenthesized, listTemplate, listTemplate,
      Template.outline_joined_values _ hlength]

/-- IN with something else than a list. -/
theorem outline_in (hl : l.SameShape l') (ihl : l.template.outline = l'.template.outline)
    (ihr : r.template.outline = r'.template.outline) (hr : ∀ items, r ≠ .literal (.array items))
    (hr' : ∀ items, r' ≠ .literal (.array items)) :
    (Expr.binary l .isIn r).template.outline = (Expr.binary l' .isIn r').template.outline := by
  rw [template, template, ← hl.wrapsUnder, Template.outline_append, Template.outline_append,
    outline_bracketed ihl, Template.outline_text_cons, Template.outline_text_cons,
    Template.outline_parenthesized, Template.outline_parenthesized, ihr]
  · exact hr'
  · exact hr

/-- Any other operator. -/
theorem outline_operator {op : BinaryOp} (hop : op ≠ .isIn)
    (hl : l.wrapsUnder op false = l'.wrapsUnder op false)
    (hr : r.wrapsUnder op true = r'.wrapsUnder op true)
    (ihl : l.template.outline = l'.template.outline)
    (ihr : r.template.outline = r'.template.outline) :
    (Expr.binary l op r).template.outline = (Expr.binary l' op r').template.outline := by
  rw [template_operator hop, template_operator hop, hl, hr]
  refine outline_bracketed ?_ op.isBoolean
  rw [Template.outline_append, Template.outline_append, Template.outline_text_cons,
    Template.outline_text_cons, outline_bracketed ihl, outline_bracketed ihr]

theorem outline_unary {op : UnaryOp} (h : e.wrapsUnderUnary op = e'.wrapsUnderUnary op)
    (ih : e.template.outline = e'.template.outline) :
    (Expr.unary op e).template.outline = (Expr.unary op e').template.outline := by
  rw [template, template, Template.outline_text_cons, Template.outline_text_cons,
    outline_bracketed ih, h]

/-- **Expressions that differ in values only have one outline.** -/
theorem SameShape.outline (h : SameShape e e') : e.template.outline = e'.template.outline := by
  induction h with
  | column c => rfl
  | literal v w => rfl
  | @binary l l' r r' op hl hr hlist ihl ihr =>
      by_cases hop : op = .isIn
      · subst hop
        by_cases hitems : ∃ items, r = .literal (.array items)
        · obtain ⟨items, rfl⟩ := hitems
          obtain ⟨items', rfl, hlength⟩ := listLength_eq_some (hlist rfl).symm
          exact outline_inList hl ihl hlength.symm
        · -- a list on the other side would be one on this side
          refine outline_in hl ihl ihr (fun items h => hitems ⟨items, h⟩) ?_
          rintro items rfl
          obtain ⟨items', h, -⟩ := listLength_eq_some (hlist rfl)
          exact hitems ⟨items', h⟩
      · exact outline_operator hop (hl.wrapsUnder op false) (hr.wrapsUnder op true) ihl ihr
  | unary h ih => exact outline_unary (h.wrapsUnderUnary _) ih

end Expr

/-! ## Requests that differ in values only -/

/-- Whether two operands, if they are expressions at all, differ in values only. -/
def Operand.SameShape (o o' : Operand) : Prop :=
  ∀ e e', o.toExpr = .ok e → o'.toExpr = .ok e' → e.SameShape e'

namespace Query

/-- Whether two conditions differ in values only. -/
def SameFilter : Option Expr → Option Expr → Prop
  | none, none => True
  | some e, some e' => e.SameShape e'
  | _, _ => False

/-- Whether two lists of assignments differ in values only. -/
def SameAssignments : List (String × Operand) → List (String × Operand) → Prop
  | [], [] => True
  | a :: as, a' :: as' => a.1 = a'.1 ∧ a.2.SameShape a'.2 ∧ SameAssignments as as'
  | _, _ => False

/-- Whether two queries differ in values only. A limit or an offset that is absent counts as
zero. -/
structure SameShape (q q' : Query) : Prop where
  entity : q.entity = q'.entity
  filter : SameFilter q.filter q'.filter
  limit : q.limit.getD 0 = 0 ↔ q'.limit.getD 0 = 0
  offset : q.offset.getD 0 = 0 ↔ q'.offset.getD 0 = 0

variable {q q' : Query}

theorem outline_where (h : SameFilter q.filter q'.filter) :
    q.whereTemplate.outline = q'.whereTemplate.outline := by
  unfold whereTemplate
  cases hq : q.filter with
  | none =>
      cases hq' : q'.filter with
      | none => rfl
      | some e' => rw [hq, hq'] at h; exact h.elim
  | some e =>
      cases hq' : q'.filter with
      | none => rw [hq, hq'] at h; exact h.elim
      | some e' =>
          rw [hq, hq'] at h
          rw [Template.outline_text_cons, Template.outline_text_cons, Expr.SameShape.outline h]

theorem selectTemplate_eq (h : q.entity = q'.entity) (columns : List String) :
    q.selectTemplate columns = q'.selectTemplate columns := by
  rw [selectTemplate, selectTemplate, h]

theorem outline_page (clause : String) {n n' : Option Int64} (h : n.getD 0 = 0 ↔ n'.getD 0 = 0) :
    Template.outline (pageClause clause n) = Template.outline (pageClause clause n') := by
  -- absent or zero, there is no clause
  have hzero : ∀ n : Option Int64, Template.outline (pageClause clause n)
      = if n.getD 0 = 0 then [] else [some clause, none] := by
    intro n
    cases n with
    | none => rfl
    | some n =>
        by_cases hn : n = 0
        · rw [pageClause, if_pos hn, if_pos (by exact hn)]
          rfl
        · rw [pageClause, if_neg hn, if_neg (by exact hn)]
          rfl
  rw [hzero, hzero]
  by_cases hn : n.getD 0 = 0
  · rw [if_pos hn, if_pos (h.mp hn)]
  · rw [if_neg hn, if_neg fun hn' => hn (h.mpr hn')]

theorem outline_assignments {as as' : List (String × Operand)} {sets sets' : List Template}
    (hs : SameAssignments as as') (h : as.mapM q.assignmentTemplate = .ok sets)
    (h' : as'.mapM q'.assignmentTemplate = .ok sets') :
    sets.map Template.outline = sets'.map Template.outline := by
  induction as generalizing as' sets sets' with
  | nil =>
      cases as' with
      | nil => cases h; cases h'; rfl
      | cons a' as' => exact hs.elim
  | cons a as ih =>
      cases as' with
      | nil => exact hs.elim
      | cons a' as' =>
          obtain ⟨hname, hoperand, hrest⟩ := hs
          rw [List.mapM_cons, bind_eq_ok] at h h'
          obtain ⟨t, ht, h⟩ := h
          obtain ⟨t', ht', h'⟩ := h'
          rw [bind_eq_ok] at h h'
          obtain ⟨rest, hmap, h⟩ := h
          obtain ⟨rest', hmap', h'⟩ := h'
          cases h
          cases h'
          -- both were rendered, so both are expressions
          obtain ⟨-, e, -, he, -, rfl⟩ := assignmentTemplate_ok ht
          obtain ⟨-, e', -, he', -, rfl⟩ := assignmentTemplate_ok ht'
          rw [List.map_cons, List.map_cons, ih hrest hmap hmap', Template.outline_text_cons,
            Template.outline_text_cons, (hoperand e e' he he').outline, hname]

theorem map_value (values : List (String × Value)) :
    (values.map fun (_, v) => [Fragment.value v])
      = (values.map (·.2)).map fun v => [Fragment.value v] := by
  rw [List.map_map]
  rfl

/-- Of the values of a row, only their columns show. -/
theorem outline_row {values values' : List (String × Value)}
    (h : values.map (·.1) = values'.map (·.1)) :
    Template.outline (rowTemplate values) = Template.outline (rowTemplate values') := by
  have hlength : values.length = values'.length := by simpa using congrArg List.length h
  have hvalues : (values.map (·.2)).length = (values'.map (·.2)).length := by simpa using hlength
  have hempty : values.isEmpty = values'.isEmpty := by
    rw [Bool.eq_iff_iff, List.isEmpty_iff_length_eq_zero, List.isEmpty_iff_length_eq_zero, hlength]
  rw [rowTemplate, rowTemplate, hempty]
  split
  · rfl
  · rw [Template.outline_text_cons, Template.outline_text_cons, h, Template.outline_parenthesized,
      Template.outline_parenthesized, map_value, map_value,
      Template.outline_joined_values "," hvalues]

end Query

namespace Request

/-- Whether two requests differ in values only. -/
def SameShape : Request → Request → Prop
  | fetch columns, fetch columns' => columns = columns'
  | fetchOne columns, fetchOne columns' => columns = columns'
  | update as, update as' => Query.SameAssignments as as'
  | delete, delete => True
  | insert i, insert i' => i.entity = i'.entity
    ∧ i.cells.map (·.value.isSome) = i'.cells.map (·.value.isSome)
  | _, _ => False

theorem names_of_values {i i' : Instance} (he : i.entity = i'.entity)
    (hc : i.cells.map (·.value.isSome) = i'.cells.map (·.value.isSome)) :
    i.values.map (·.1) = i'.values.map (·.1) := by
  -- which columns have a value is all that the names depend on
  have hnames : ∀ i : Instance, i.values.map (·.1)
      = (i.schema.columns.zip (i.cells.map (·.value.isSome))).filterMap
        fun ((name, _), filled) => if filled then some name else none := by
    intro i
    rw [List.zip_map_right, List.filterMap_map, Instance.values, List.map_filterMap]
    refine congrFun (congrArg List.filterMap (funext fun slot => ?_)) _
    cases hv : slot.2.value <;> simp [hv]
  rw [hnames, hnames, hc, Instance.schema, Instance.schema, he]

theorem returnsGenerated_eq {q : Query} {i i' : Instance}
    (hc : i.cells.map (·.value.isSome) = i'.cells.map (·.value.isSome)) :
    q.returnsGenerated i = q.returnsGenerated i' := by
  have hnone : ∀ (i : Instance) (k : Nat), (i.cells[k]?.bind (·.value)).isNone
      = !((i.cells.map (·.value.isSome))[k]?.getD false) := by
    intro i k
    rw [List.getElem?_map]
    cases i.cells[k]? with
    | none => rfl
    | some cell => cases hv : cell.value <;> simp [hv]
  unfold Query.returnsGenerated
  cases q.entity.schema.identity with
  | none => rfl
  | some k => exact (hnone i k).trans (hc ▸ (hnone i' k).symm)

/-- **The outline of a statement does not depend on values.** -/
theorem outline_eq {q q' : Query} {r r' : Request} {t t' : Template} (hq : q.SameShape q')
    (hr : r.SameShape r') (h : r.template q = .ok t) (h' : r'.template q' = .ok t') :
    t.outline = t'.outline := by
  -- both requests are of one kind, and their names come from one entity
  cases r with
  | fetch columns =>
      cases r' with
      | fetch columns' =>
          cases hr
          simp only [template, Query.fetchTemplate, ← Query.selectTemplate_eq hq.entity,
            bind_eq_ok] at h h'
          obtain ⟨select, hselect, h⟩ := h
          obtain ⟨select', hselect', h'⟩ := h'
          cases h
          cases h'
          cases hselect.symm.trans hselect'
          simp only [Template.outline_append, Template.outline_text_cons, hq.entity,
            Query.outline_where hq.filter, Query.outline_page _ hq.limit,
            Query.outline_page _ hq.offset]
      | _ => exact hr.elim
  | fetchOne columns =>
      cases r' with
      | fetchOne columns' =>
          cases hr
          simp only [template, Query.fetchOneTemplate, ← Query.selectTemplate_eq hq.entity,
            bind_eq_ok] at h h'
          obtain ⟨_, -, select, hselect, h⟩ := h
          obtain ⟨_, -, select', hselect', h'⟩ := h'
          cases h
          cases h'
          cases hselect.symm.trans hselect'
          simp only [Template.outline_append, Template.outline_text_cons, hq.entity,
            Query.outline_where hq.filter]
      | _ => exact hr.elim
  | update as =>
      cases r' with
      | update as' =>
          obtain ⟨sets, hsets, -, -, rfl⟩ := Query.updateTemplate_ok h
          obtain ⟨sets', hsets', -, -, rfl⟩ := Query.updateTemplate_ok h'
          simp only [Template.outline_append, Template.outline_text_cons, hq.entity,
            Template.outline_joined, Query.outline_assignments hr hsets hsets',
            Query.outline_where hq.filter]
      | _ => exact hr.elim
  | delete =>
      cases r' with
      | delete =>
          simp only [template, Query.deleteTemplate, bind_eq_ok] at h h'
          obtain ⟨_, -, h⟩ := h
          obtain ⟨_, -, h'⟩ := h'
          cases h
          cases h'
          rw [Template.outline_text_cons, Template.outline_text_cons, hq.entity,
            Query.outline_where hq.filter]
      | _ => exact hr.elim
  | insert i =>
      cases r' with
      | insert i' =>
          obtain ⟨he, hc⟩ := hr
          obtain ⟨-, rfl⟩ := Query.insertTemplate_ok h
          obtain ⟨-, rfl⟩ := Query.insertTemplate_ok h'
          have hreturns : q.returnsGenerated i = q'.returnsGenerated i' := by
            rw [returnsGenerated_eq hc, Query.returnsGenerated, Query.returnsGenerated, hq.entity]
          simp only [Template.outline_append, Template.outline_text_cons, hq.entity, hreturns,
            Query.outline_row (names_of_values he hc)]
      | _ => exact hr.elim

/-- **The text of a statement does not depend on values.** -/
theorem text_eq {q q' : Query} {r r' : Request} {s s' : Statement} (hq : q.SameShape q')
    (hr : r.SameShape r') (h : r.statement q = .ok s) (h' : r'.statement q' = .ok s') :
    s.sql = s'.sql := by
  obtain ⟨t, ht, rfl⟩ := statement_eq_ok h
  obtain ⟨t', ht', rfl⟩ := statement_eq_ok h'
  exact congrArg String.ofList (Template.chars_of_outline (outline_eq hq hr ht ht') 0)

end Request

end EntityMapper
