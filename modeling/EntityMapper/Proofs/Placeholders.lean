import EntityMapper.Proofs.Places
import EntityMapper.Proofs.Statements

/-!
# Placeholders and parameters

Whatever a query is asked to render, the placeholders of the statement are `$1`, `$2` and so on,
each once and in this order, and each stands where the literal stood that became its parameter. The
parameters of a change are what is assigned, then the literals of the condition; those of a page
come last. A column that is bound by hand can have a name that is no identifier. That does no harm
unless the name brings a placeholder of its own into the text.
-/

namespace EntityMapper

open Sql

/-! ## The literals of a statement -/

namespace Query

variable {q : Query}

/-- A list of columns to read binds nothing. -/
theorem values_select {columns : List String} {t : Template}
    (h : q.selectTemplate columns = .ok t) : t.values = [] := by
  unfold selectTemplate at h
  split at h
  · cases h
    rfl
  · obtain ⟨rendered, hrendered, h⟩ := bind_eq_ok.mp h
    cases h
    rw [Template.values, Template.values_joined, List.flatMap_eq_nil_iff]
    intro u hu
    obtain ⟨name, -, hname⟩ := mapM_ok_mem hrendered u hu
    obtain ⟨c, -, hname⟩ := bind_eq_ok.mp hname
    obtain ⟨e, he, hname⟩ := bind_eq_ok.mp hname
    obtain ⟨b, -, rfl⟩ := map_eq_ok.mp he
    cases hname
    rfl

theorem values_where (q : Query) : q.whereTemplate.values = q.filterLiterals := by
  unfold whereTemplate filterLiterals
  cases q.filter with
  | none => rfl
  | some e => exact e.values_template

theorem values_page (clause : String) (n : Option Int64) :
    (pageClause clause n).values = pageValues n := by
  cases n with
  | none => rfl
  | some n =>
      by_cases hz : n = 0
      · rw [pageClause, pageValues, if_pos hz, if_pos hz]
        rfl
      · rw [pageClause, pageValues, if_neg hz, if_neg hz]
        rfl

theorem values_rows {columns : List String} {select : Template}
    (h : q.selectTemplate columns = .ok select) :
    Template.values (select ++ .text (" FROM " ++ q.entity.table) :: q.whereTemplate)
      = q.filterLiterals := by
  rw [Template.values_append, values_select h, Template.values, values_where]
  rfl

theorem values_assignment {assignment : String × Operand} {t : Template}
    (h : q.assignmentTemplate assignment = .ok t) : t.values = assignment.2.literals := by
  obtain ⟨name, operand⟩ := assignment
  obtain ⟨c, e, -, he, -, rfl⟩ := assignmentTemplate_ok h
  rw [Operand.literals, he]
  exact e.values_template

theorem values_row (values : List (String × Value)) :
    (rowTemplate values).values = values.map (·.2) := by
  unfold rowTemplate
  split
  · rename_i hempty
    rw [List.isEmpty_iff.mp hempty]
    rfl
  · change Template.values (Template.joined "," _ ++ [.text ")"]) = _
    rw [Template.values_append, Template.values_joined, List.flatMap_map]
    change values.flatMap (fun p => [p.2]) ++ [] = _
    rw [List.append_nil, List.map_eq_flatMap]

end Query

namespace Request

variable {q : Query} {r : Request} {t : Template}

/-- The literals of a statement in the order in which they are asked for: what is assigned or
stored, then those of the condition, then the limit and the offset unless they are zero. -/
def literals (q : Query) : Request → List Value
  | fetch _ => q.filterLiterals ++ Query.pageValues q.limit ++ Query.pageValues q.offset
  | fetchOne _ => q.filterLiterals
  | update assignments => assignments.flatMap (·.2.literals) ++ q.filterLiterals
  | delete => q.filterLiterals
  | insert i => i.values.map (·.2)

/-- **The values of a statement are its literals.** -/
theorem values_template (h : r.template q = .ok t) : t.values = r.literals q := by
  cases r with
  | fetch columns =>
      obtain ⟨select, hselect, h⟩ := bind_eq_ok.mp h
      cases h
      rw [Template.values_append, Template.values_append, Query.values_rows hselect,
        Query.values_page, Query.values_page, literals]
  | fetchOne columns =>
      obtain ⟨_, -, h⟩ := bind_eq_ok.mp h
      obtain ⟨select, hselect, h⟩ := bind_eq_ok.mp h
      cases h
      rw [Template.values_append, Query.values_rows hselect]
      exact List.append_nil _
  | update assignments =>
      obtain ⟨sets, hsets, -, -, rfl⟩ := Query.updateTemplate_ok h
      have heach : sets.map Template.values = assignments.map (·.2.literals) :=
        mapM_ok_map hsets fun a _ t => Query.values_assignment
      rw [Template.values_append, Template.values, Template.values_joined, Query.values_where,
        List.flatMap_def, heach, ← List.flatMap_def, literals]
  | delete =>
      obtain ⟨_, -, h⟩ := bind_eq_ok.mp h
      cases h
      exact q.values_where
  | insert i =>
      obtain ⟨-, rfl⟩ := Query.insertTemplate_ok h
      rw [Template.values_append, Template.values, Query.values_row, literals]
      split <;> exact List.append_nil _

end Request

/-! ## The places of the literals -/

namespace Query

variable {q : Query}

theorem placed_select {columns : List String} {t : Template} (hq : q.entity.IsRegistered)
    (h : q.selectTemplate columns = .ok t) : t.Placed := by
  unfold selectTemplate at h
  split at h
  · cases h
    exact Template.placed_text (by decide)
  · obtain ⟨rendered, hrendered, h⟩ := bind_eq_ok.mp h
    cases h
    have hselect : IsLead "SELECT " [.word "SELECT"] := by decide
    have hcomma : IsSeparator "," [.mark ","] := by decide
    refine Template.placed_lead hselect (Template.placed_joined hcomma fun u hu => ?_)
    -- each name is rendered as the column that it is
    obtain ⟨name, -, hname⟩ := mapM_ok_mem hrendered u hu
    obtain ⟨c, hc, hname⟩ := bind_eq_ok.mp hname
    rw [hq.wellFormed.toExpr hc] at hname
    cases hname
    exact Template.placed_text (hq.wellFormed.isNamed hc).lacksPlaceholder

theorem placed_where (hq : ∀ c ∈ q.filterColumns, c.LacksPlaceholder) :
    q.whereTemplate.Placed := by
  unfold filterColumns at hq
  unfold whereTemplate
  cases hf : q.filter with
  | none => exact Template.placed_nil
  | some e =>
      rw [hf] at hq
      have hwhere : IsLead " WHERE " [.word "WHERE"] := by decide
      exact Template.placed_lead hwhere (e.placed_template hq)

theorem placed_page {clause : String} {w : List Token} (hs : IsLead clause w)
    (n : Option Int64) : Template.Placed (pageClause clause n) := by
  cases n with
  | none => exact Template.placed_nil
  | some n =>
      by_cases hz : n = 0
      · rw [pageClause, if_pos hz]
        exact Template.placed_nil
      · rw [pageClause, if_neg hz]
        exact Template.placed_lead hs (Template.placed_value _)

/-- A table behind keywords, with a condition. -/
theorem placed_table (he : q.entity.IsRegistered)
    (hq : ∀ c ∈ q.filterColumns, c.LacksPlaceholder) {s : String} {w : List Token}
    (hs : IsLead s w) : Template.Placed (.text (s ++ q.entity.table) :: q.whereTemplate) :=
  Template.placed_append (Template.placed_text (isPhrase_table he hs).lacksPlaceholder)
    (placed_where hq) q.followsFree_where

theorem placed_rows {columns : List String} {select : Template} (he : q.entity.IsRegistered)
    (hq : ∀ c ∈ q.filterColumns, c.LacksPlaceholder)
    (hselect : q.selectTemplate columns = .ok select) :
    Template.Placed (select ++ .text (" FROM " ++ q.entity.table) :: q.whereTemplate) := by
  have hfrom : IsLead " FROM " [.word "FROM"] := by decide
  refine Template.placed_append (placed_select he hselect) (placed_table he hq hfrom)
    (Template.followsFree_text ?_ _)
  rw [String.toList_append]
  rfl

/-- No name reaches from an equals sign into what is assigned, whatever that is. -/
theorem placed_assignment {assignment : String × Operand} {t : Template}
    (hq : q.entity.IsRegistered) (ha : ∀ c ∈ assignment.2.columns, c.LacksPlaceholder)
    (h : q.assignmentTemplate assignment = .ok t) : t.Placed := by
  obtain ⟨name, operand⟩ := assignment
  obtain ⟨c, e, hc, he, -, rfl⟩ := assignmentTemplate_ok h
  have hcolumns : ∀ c ∈ e.columns, c.LacksPlaceholder := by
    simpa only [Operand.columns, he] using ha
  have hid : isIdentifier name = true :=
    hq.wellFormed.columns.named _ (Schema.mem_columns_of_column hc)
  refine Template.placed_text_cons (isPhrase_assigned hid).lacksPlaceholder (fun b => ?_)
    (e.placed_template hcolumns)
  intro c hc d _ hname
  rw [String.toList_append, List.getLast?_append] at hc
  cases hc
  exact absurd hname (by decide)

theorem placed_row {values : List (String × Value)} (h : ∀ p ∈ values, isIdentifier p.1 = true) :
    Template.Placed (rowTemplate values) := by
  unfold rowTemplate
  split
  · exact Template.placed_text (by decide)
  · have hcomma : IsSeparator "," [.mark ","] := by decide
    refine Template.placed_lead (isLead_rowNames h)
      (Template.placed_parenthesized (Template.placed_joined hcomma fun t ht => ?_))
    obtain ⟨p, -, rfl⟩ := List.mem_map.mp ht
    exact Template.placed_value _

end Query

namespace Request

variable {q : Query} {r : Request} {t : Template}

/-- Whether no name that goes into the statement brings a placeholder: those of columns in
expressions, and those of entities because they are registered. -/
structure LacksPlaceholder (q : Query) (r : Request) : Prop where
  entities : ∀ e ∈ r.entities q, e.IsRegistered
  columns : ∀ c ∈ r.columns q, c.LacksPlaceholder

/-- **The only places in a statement are those of its literals.** -/
theorem placed_template (hr : r.LacksPlaceholder q) (h : r.template q = .ok t) : t.Placed := by
  have hq : q.entity.IsRegistered := hr.entities _ (by cases r <;> simp [entities])
  have hlimit : IsSeparator " LIMIT " [.word "LIMIT"] := by decide
  have hoffset : IsSeparator " OFFSET " [.word "OFFSET"] := by decide
  cases r with
  | fetch columns =>
      obtain ⟨select, hselect, h⟩ := bind_eq_ok.mp h
      cases h
      exact Template.placed_append
        (Template.placed_append (Query.placed_rows hq hr.columns hselect)
          (Query.placed_page hlimit.toIsLead q.limit)
          (Query.followsFree_page hlimit.starts q.limit))
        (Query.placed_page hoffset.toIsLead q.offset)
        (Query.followsFree_page hoffset.starts q.offset)
  | fetchOne columns =>
      obtain ⟨_, -, h⟩ := bind_eq_ok.mp h
      obtain ⟨select, hselect, h⟩ := bind_eq_ok.mp h
      cases h
      exact Template.placed_append (Query.placed_rows hq hr.columns hselect)
        (Template.placed_text (by decide)) (Template.followsFree_text (by decide) [])
  | update assignments =>
      obtain ⟨sets, hsets, -, -, rfl⟩ := Query.updateTemplate_ok h
      have hcolumns := List.forall_mem_append.mp hr.columns
      have hcomma : IsSeparator "," [.mark ","] := by decide
      have hsets : (Template.joined "," sets).Placed := by
        refine Template.placed_joined hcomma fun t ht => ?_
        obtain ⟨a, ha, ht⟩ := mapM_ok_mem hsets t ht
        refine Query.placed_assignment hq (fun c hc => ?_) ht
        exact hcolumns.1 c (List.mem_flatMap.mpr ⟨a, ha, hc⟩)
      exact Template.placed_append (Template.placed_lead (Query.isLead_update hq) hsets)
        (Query.placed_where hcolumns.2) q.followsFree_where
  | delete =>
      obtain ⟨_, -, h⟩ := bind_eq_ok.mp h
      cases h
      have hdelete : IsLead "DELETE FROM " [.word "DELETE", .word "FROM"] := by decide
      exact Query.placed_table hq hr.columns hdelete
  | insert i =>
      obtain ⟨-, rfl⟩ := Query.insertTemplate_ok h
      have hi : i.entity.IsRegistered := hr.entities _ (by simp [entities])
      have hinsert : IsLead "INSERT INTO " [.word "INSERT", .word "INTO"] := by decide
      have hhead := Template.placed_append
        (Template.placed_text (Query.isPhrase_table hq hinsert).lacksPlaceholder)
        (Query.placed_row hi.isIdentifier_values) (Query.followsFree_row _)
      split
      · exact Template.placed_append hhead (Template.placed_text (by decide))
          (Template.followsFree_text (by decide) [])
      · exact Template.placed_append hhead Template.placed_nil Template.followsFree_nil

/-- **Placeholders and parameters correspond.**

Whatever is rendered, unless a name brings a placeholder of its own: the placeholders count up from
one to the number of parameters, the parameters are the literals in the order in which they were
asked for, and with each parameter put in the place of its placeholder the statement is the text
that was asked for with the literals standing in it. If all names are identifiers it is read as what
was asked for, token by token. -/
theorem placeholders_correspond {s : Statement} (hr : r.LacksPlaceholder q)
    (h : r.statement q = .ok s) :
    s.placeholders = List.range' 1 s.params.length
      ∧ s.params = r.literals q
      ∧ (∃ t, r.template q = .ok t ∧ s.items = t.items)
      ∧ ((∀ c ∈ r.columns q, c.IsNamed) → s.pieces = some (r.pieces q)) := by
  obtain ⟨t, ht, rfl⟩ := statement_eq_ok h
  have hplaced := placed_template hr ht
  refine ⟨hplaced.placeholders, values_template ht, ⟨t, ht, hplaced.items⟩, fun hnamed => ?_⟩
  have hsays := says_template ⟨hr.entities, hnamed⟩ ht
  rw [Template.statement_pieces hsays.readable, hsays.pieces]

/-- An update with an expression and a list, over columns that were bound by hand to a table with
its schema and to one in quotes. -/
theorem placeholders_correspond_update :
    let rank : Expr := .column ⟨"\"Order\"", "rank", .scalar .integer⟩
    let id : Expr := .column ⟨"public.tasks", "id", .scalar .integer⟩
    let q := Entity.tasks.all.filtered (.binary id .isIn (.literal (.array [.int 3, .int 4])))
    let r := Request.update [("score", .expr (.binary rank .add (.literal (.int 1)))),
      ("id", .value (.int 2))]
    ∃ s, r.LacksPlaceholder q ∧ r.statement q = .ok s
      ∧ s.sql = "UPDATE tasks SET score=\"Order\".rank + $1,id=$2" ++
        " WHERE public.tasks.id IN ($3, $4)"
      ∧ s.placeholders = List.range' 1 4
      ∧ s.params = [.int 1, .int 2, .int 3, .int 4]
      ∧ ∃ t, r.template q = .ok t ∧ s.items = t.items := by
  intro rank id q r
  have hr : r.LacksPlaceholder q := by
    refine ⟨fun e he => ?_, by decide⟩
    rw [List.mem_singleton.mp he]
    exact Entity.tasks_isRegistered
  refine ⟨_, hr, rfl, by decide, ?_⟩
  obtain ⟨hplaceholders, hparams, hitems, -⟩ := placeholders_correspond hr rfl
  exact ⟨hplaceholders, hparams, hitems⟩

/-- A column that is bound by hand to a name that is no identifier can bring a placeholder of its
own, so registered entities alone are not enough. -/
theorem placeholder_of_unchecked_name :
    let column := Column.integer.bind "t" "a = $9 OR b" none
    ∃ filter s, (Operand.column column).combine .eq (.value (.int 1)) = .ok filter
      ∧ Entity.tasks.IsRegistered
      ∧ (Request.fetch []).statement (Entity.tasks.all.filtered filter) = .ok s
      ∧ s.sql = "SELECT * FROM tasks WHERE t.a = $9 OR b = $1"
      ∧ s.placeholders = [9, 1]
      ∧ s.placeholders ≠ List.range' 1 s.params.length :=
  ⟨_, _, rfl, Entity.tasks_isRegistered, rfl, by decide, by decide, by decide⟩

end Request

end EntityMapper
