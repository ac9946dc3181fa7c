import EntityMapper.Proofs.Placeholders
import EntityMapper.Proofs.Renumbering

/-!
# Filters in a row

A query that is filtered again keeps its condition and gets another one beside it. The two are
joined by AND, which always brings its own brackets, so that neither has to get any: whatever a
filter is, it stands in the condition as it stands alone, its placeholders numbered after those of
the filters before it. `filters_conjoin` follows that into every statement of the query.
-/

namespace EntityMapper

open Sql

namespace Sql

/-- Conditions in a row: each further one is joined to what is there, with brackets around both. -/
def conjunction : List String → String
  | [] => ""
  | w :: rest => rest.foldl (fun w next => "(" ++ w ++ " AND " ++ next ++ ")") w

/-- A statement with clauses put behind it. -/
def Statement.append (s : Statement) (clauses : Template) : Statement :=
  ⟨s.sql ++ clauses.text s.params.length, s.params ++ clauses.values⟩

theorem Statement.append_nil (s : Statement) : s.append [] = s := by
  simp [append, Template.text, Template.chars, Template.values]

theorem Template.statement_append (t u : Template) :
    (t ++ u).statement = t.statement.append u := by
  rw [statement, Statement.append, text_append, values_append, Nat.zero_add]
  rfl

end Sql

/-! ## The condition -/

namespace Expr

/-- The texts of conditions if `k` parameters precede them: each is what the condition is by itself,
with its placeholders after those of the ones before it. -/
def ownTexts (k : Nat) : List Expr → List String
  | [] => []
  | e :: rest => renumbered k e.statement.sql :: ownTexts (k + e.statement.params.length) rest

/-- The parameters of conditions in a row. -/
def ownParams (es : List Expr) : List Value := es.flatMap (·.statement.params)

/-- What AND joins never gets brackets: it has its own, or binds more tightly. -/
theorem wrapsUnder_and (e : Expr) (onRight : Bool) : e.wrapsUnder .and onRight = false := by
  cases e with
  | column c => rfl
  | literal v => rfl
  | binary left op right => cases op <;> rfl
  | unary op operand => cases op <;> rfl

theorem template_conjoin (e f : Expr) :
    (e.conjoin f).template = .text "(" :: (e.template ++ .text " AND " :: (f.template
      ++ [.text ")"])) := by
  rw [conjoin, template_operator (by decide), wrapsUnder_and, wrapsUnder_and]
  change .text "(" :: ((e.template ++ .text " AND " :: f.template) ++ [.text ")"]) = _
  rw [List.append_assoc]
  rfl

theorem text_conjoin (e f : Expr) (k : Nat) : (e.conjoin f).template.text k
    = "(" ++ e.template.text k ++ " AND " ++ f.template.text (k + e.template.values.length)
      ++ ")" := by
  rw [template_conjoin, Template.text_cons, Template.text_append, Template.text_cons,
    Template.text_append, Template.text_cons]
  simp [Template.text, Template.chars, String.append_assoc]

theorem values_conjoin (e f : Expr) :
    (e.conjoin f).template.values = e.template.values ++ f.template.values := by
  rw [values_template, values_template, values_template]
  exact literals_operator (by decide)

/-- **Each of several conditions stands as it stands alone.** -/
theorem text_foldl_conjoin {first : Expr} {rest : List Expr}
    (h : ∀ e ∈ rest, ∀ c ∈ e.columns, c.LacksPlaceholder) (k : Nat) :
    (rest.foldl conjoin first).template.text k = conjunction (first.template.text k
      :: ownTexts (k + first.template.values.length) rest) := by
  induction rest generalizing first with
  | nil => rfl
  | cons e rest ih =>
      have hown := text_eq_renumbered (h e List.mem_cons_self) (k + first.template.values.length)
      have hrest := @ih (first.conjoin e) fun f hf => h f (List.mem_cons_of_mem _ hf)
      rw [text_conjoin, hown, values_conjoin, List.length_append, ← Nat.add_assoc,
        ← params_eq e] at hrest
      exact hrest

theorem values_foldl_conjoin (first : Expr) (rest : List Expr) :
    (rest.foldl conjoin first).template.values = ownParams (first :: rest) := by
  induction rest generalizing first with
  | nil => simp [ownParams, params_eq]
  | cons e rest ih =>
      rw [List.foldl_cons, ih (first.conjoin e)]
      simp only [ownParams, List.flatMap_cons, params_eq, values_conjoin, List.append_assoc]

/-- **What filters in a row are rendered as**, behind any number of parameters. -/
theorem text_conjunction {first : Expr} {rest : List Expr}
    (h : ∀ e ∈ first :: rest, ∀ c ∈ e.columns, c.LacksPlaceholder) (k : Nat) :
    (rest.foldl conjoin first).template.text k = conjunction (ownTexts k (first :: rest)) := by
  obtain ⟨hfirst, hrest⟩ := List.forall_mem_cons.mp h
  rw [text_foldl_conjoin hrest, text_eq_renumbered hfirst, ← params_eq first]
  rfl

theorem append_conjunction {first : Expr} {rest : List Expr}
    (h : ∀ e ∈ first :: rest, ∀ c ∈ e.columns, c.LacksPlaceholder) (s : Statement) :
    s.append (.text " WHERE " :: (rest.foldl conjoin first).template)
      = ⟨s.sql ++ " WHERE " ++ conjunction (ownTexts s.params.length (first :: rest)),
        s.params ++ ownParams (first :: rest)⟩ := by
  rw [Statement.append, Template.text_cons, text_conjunction h, ← String.append_assoc,
    Template.values, values_foldl_conjoin]

end Expr

/-! ## The statements -/

namespace Query

theorem foldl_filtered (q : Query) (first : Expr) (rest : List Expr) :
    rest.foldl filtered { q with filter := some first }
      = { q with filter := some (rest.foldl Expr.conjoin first) } := by
  induction rest generalizing first with
  | nil => rfl
  | cons e rest ih => exact ih (first.conjoin e)

end Query

namespace Request

variable {q : Query} {r : Request}

/-- The clauses of a statement behind its condition. -/
def lastClauses (q : Query) : Request → Template
  | fetch _ => Query.pageClause " LIMIT " q.limit ++ Query.pageClause " OFFSET " q.offset
  | fetchOne _ => [.text " LIMIT 1"]
  | _ => []

/-- Whether a statement has a place for a condition. -/
def IsConditional : Request → Prop
  | insert _ => False
  | _ => True

/-- What precedes the condition of a statement. -/
def opening (q : Query) : Request → Except Error Template
  | fetch columns => do
    let select ← q.selectTemplate columns
    return select ++ [.text (" FROM " ++ q.entity.table)]
  | fetchOne columns => do
    q.rejectPage "a single-row SELECT"
    let select ← q.selectTemplate columns
    return select ++ [.text (" FROM " ++ q.entity.table)]
  | update assignments => do
    q.rejectPage "UPDATE"
    let sets ← assignments.mapM q.assignmentTemplate
    if sets.isEmpty then .error q.noAssignment
    else return .text ("UPDATE " ++ q.entity.table ++ " SET ") :: Template.joined "," sets
  | delete => do
    q.rejectPage "DELETE"
    return [.text ("DELETE FROM " ++ q.entity.table)]
  | insert i => q.insertTemplate i

/-- A statement is what precedes its condition, the condition, and its last clauses. Only the
condition depends on the filter. -/
theorem template_eq (q : Query) (hr : r.IsConditional) (condition : Option Expr) :
    r.template { q with filter := condition } = (r.opening q).map fun before =>
      before ++ (Query.whereTemplate { q with filter := condition } ++ r.lastClauses q) := by
  cases r with
  | fetch columns =>
      change (q.selectTemplate columns >>= fun select => _)
        = (q.selectTemplate columns >>= fun select => _).map _
      cases q.selectTemplate columns with
      | error err => rfl
      | ok select =>
          refine congrArg Except.ok ?_
          simp only [lastClauses, List.cons_append, List.append_assoc, List.nil_append]
  | fetchOne columns =>
      change (q.rejectPage _ >>= fun _ => q.selectTemplate columns >>= fun select => _)
        = (q.rejectPage _ >>= fun _ => q.selectTemplate columns >>= fun select => _).map _
      cases q.rejectPage "a single-row SELECT" with
      | error err => rfl
      | ok _ =>
          cases q.selectTemplate columns with
          | error err => rfl
          | ok select =>
              refine congrArg Except.ok ?_
              simp only [lastClauses, List.cons_append, List.append_assoc, List.nil_append]
  | update assignments =>
      change (q.rejectPage _ >>= fun _ => assignments.mapM q.assignmentTemplate >>= fun sets => _)
        = (q.rejectPage _ >>= fun _ =>
          assignments.mapM q.assignmentTemplate >>= fun sets => _).map _
      cases q.rejectPage "UPDATE" with
      | error err => rfl
      | ok _ =>
          cases assignments.mapM q.assignmentTemplate with
          | error err => rfl
          | ok sets =>
              cases sets with
              | nil => rfl
              | cons t sets =>
                  refine congrArg Except.ok ?_
                  simp only [lastClauses, List.cons_append, List.append_nil]
  | delete =>
      change (q.rejectPage _ >>= fun _ => _) = (q.rejectPage _ >>= fun _ => _).map _
      cases q.rejectPage "DELETE" with
      | error err => rfl
      | ok _ =>
          refine congrArg Except.ok ?_
          simp only [lastClauses, List.cons_append, List.nil_append, List.append_nil]
  | insert i => cases hr

/-- Only an update binds something before its condition. -/
theorem values_opening (hr : r.IsConditional) (hupdate : ∀ assignments, r ≠ .update assignments)
    {before : Template} (h : r.opening q = .ok before) : before.values = [] := by
  have hselect : ∀ {columns : List String} {select : Template},
      q.selectTemplate columns = .ok select →
        Template.values (select ++ [.text (" FROM " ++ q.entity.table)]) = [] := by
    intro columns select hselect
    rw [Template.values_append, Query.values_select hselect]
    rfl
  cases r with
  | fetch columns =>
      obtain ⟨select, hcolumns, h⟩ := bind_eq_ok.mp h
      cases h
      exact hselect hcolumns
  | fetchOne columns =>
      obtain ⟨_, -, h⟩ := bind_eq_ok.mp h
      obtain ⟨select, hcolumns, h⟩ := bind_eq_ok.mp h
      cases h
      exact hselect hcolumns
  | update assignments => exact absurd rfl (hupdate assignments)
  | delete =>
      obtain ⟨_, -, h⟩ := bind_eq_ok.mp h
      cases h
      rfl
  | insert i => cases hr

/-- **Filters in a row are one condition in which each stands as it stands alone.**

Any statement of the filtered query is what it is without filter, with the condition put before its
last clauses; a query that refuses a statement without filter refuses it with one. -/
theorem filters_conjoin {q : Query} (hq : q.filter = none) {first : Expr} {rest : List Expr}
    (h : ∀ e ∈ first :: rest, ∀ c ∈ e.columns, c.LacksPlaceholder) :
    let filters := first :: rest
    let filtered := filters.foldl Query.filtered q
    filtered.filter.map Expr.statement
        = some ⟨conjunction (Expr.ownTexts 0 filters), Expr.ownParams filters⟩ ∧
      ∀ r : Request, r.IsConditional →
        (∀ err, r.statement q = .error err → r.statement filtered = .error err) ∧
        ∀ s, r.statement q = .ok s → ∃ before : Statement,
          s = before.append (r.lastClauses q) ∧
          r.statement filtered = .ok (Statement.append
            ⟨before.sql ++ " WHERE " ++ conjunction (Expr.ownTexts before.params.length filters),
              before.params ++ Expr.ownParams filters⟩ (r.lastClauses q)) ∧
          ((∀ assignments, r ≠ .update assignments) → before.params = []) := by
  intro filters filtered
  have hfiltered : filtered = { q with filter := some (rest.foldl Expr.conjoin first) } := by
    rw [← Query.foldl_filtered]
    change rest.foldl Query.filtered (q.filtered first) = _
    rw [Query.filtered, hq]
  refine ⟨?_, fun r hr => ?_⟩
  · rw [hfiltered]
    change some (Expr.statement _) = _
    rw [Expr.statement_eq, Template.statement, Expr.text_conjunction h, Expr.values_foldl_conjoin]
  · have hown : r.template q = (r.opening q).map (· ++ r.lastClauses q) := by
      have hplain : { q with filter := none } = q := by rw [← hq]
      have hwithout := template_eq q hr none
      rwa [hplain, show q.whereTemplate = [] by rw [Query.whereTemplate, hq]] at hwithout
    rw [statement_eq q, hown, statement_eq, hfiltered, template_eq q hr]
    cases hopening : r.opening q with
    | error err => exact ⟨fun _ herr => by cases herr; rfl, fun _ hs => by cases hs⟩
    | ok before =>
        refine ⟨fun _ herr => (by cases herr), fun s hs => ?_⟩
        cases hs
        refine ⟨before.statement, before.statement_append _, ?_,
          fun hupdate => values_opening hr hupdate hopening⟩
        change Except.ok (Template.statement (before ++ (.text " WHERE " :: Expr.template _ ++ _)))
          = _
        rw [← List.append_assoc, Template.statement_append, Template.statement_append,
          Expr.append_conjunction h]

/-- Four filters of different forms, in an update that binds a value before them. -/
theorem filters_conjoin_update :
    let id : Expr := .column ⟨"tasks", "id", .scalar .integer⟩
    let score : Expr := .column ⟨"tasks", "score", .scalar .integer⟩
    let first : Expr := .binary score .gt (.literal (.int 1))
    let rest : List Expr :=
      [.binary (.binary id .eq (.literal (.int 2))) .or (.binary id .eq (.literal (.int 3))),
        .binary id .isIn (.literal (.array [])),
        .unary .not (.binary score .eq (.literal (.int 4)))]
    let filtered := (first :: rest).foldl Query.filtered Entity.tasks.all
    ∃ s, (∀ e ∈ first :: rest, ∀ c ∈ e.columns, c.LacksPlaceholder) ∧
      filtered.filter.map Expr.statement = some ⟨"(((tasks.score > $1" ++
        " AND (tasks.id = $2 OR tasks.id = $3)) AND 1=0) AND NOT tasks.score = $4)",
        [.int 1, .int 2, .int 3, .int 4]⟩ ∧
      (Request.update [("score", .value (.int 9))]).statement filtered = .ok s ∧
      s.sql = "UPDATE tasks SET score=$1 WHERE (((tasks.score > $2" ++
        " AND (tasks.id = $3 OR tasks.id = $4)) AND 1=0) AND NOT tasks.score = $5)" ∧
      s.params = [.int 9, .int 1, .int 2, .int 3, .int 4] := by
  intro id score first rest filtered
  have hcolumns : ∀ e ∈ first :: rest, ∀ c ∈ e.columns, c.LacksPlaceholder := by decide
  obtain ⟨hcondition, hstatements⟩ := filters_conjoin (q := Entity.tasks.all) rfl hcolumns
  obtain ⟨before, hbefore, hstatement, -⟩ :=
    (hstatements (.update [("score", .value (.int 9))]) trivial).2 _ rfl
  -- an update has no clause behind its condition, so what precedes it is all of it
  have hsame : before = ⟨"UPDATE tasks SET score=$1", [.int 9]⟩ :=
    before.append_nil.symm.trans hbefore.symm
  refine ⟨_, hcolumns, ?_, hstatement, ?_, ?_⟩
  · have htext : conjunction (Expr.ownTexts 0 (first :: rest)) = "(((tasks.score > $1" ++
        " AND (tasks.id = $2 OR tasks.id = $3)) AND 1=0) AND NOT tasks.score = $4)" := by
      decide +kernel
    rw [hcondition, htext]
    rfl
  · rw [hsame]
    decide +kernel
  · rw [hsame]
    rfl

/-- A placeholder that a name brings keeps its number also in a filter that is not the first. -/
theorem filter_keeps_unchecked_number :
    let score : Expr := .column ⟨"tasks", "score", .scalar .integer⟩
    let first : Expr := .binary score .gt (.literal (.int 1))
    let column := Column.integer.bind "t" "a = $9 OR b" none
    ∃ second s, (Operand.column column).combine .eq (.value (.int 1)) = .ok second ∧
      (Request.fetch []).statement ((Entity.tasks.all.filtered first).filtered second) = .ok s ∧
      s.sql = "SELECT * FROM tasks WHERE (tasks.score > $1 AND t.a = $9 OR b = $2)" ∧
      s.sql ≠ "SELECT * FROM tasks WHERE " ++ conjunction (Expr.ownTexts 0 [first, second]) :=
  ⟨_, _, rfl, rfl, by decide, by decide⟩

end Request

end EntityMapper
