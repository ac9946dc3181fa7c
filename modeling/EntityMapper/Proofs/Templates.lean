import EntityMapper.Query

/-!
# Templates

A statement before anything is numbered is a template: pieces of text with values standing between
them. A template has no binder. Its text can be given behind any number of parameters, and its
values can be listed, each by a recursion of its own, and templates are joined by appending.

Each statement of a query has its template here, and so has each part of it. That a part is built
into a binder as its template says, whatever the binder holds, is `Expr.build_eq_part` for
expressions and `Query.fetchStatement_eq` and its siblings for whole statements. What is proved of
templates is thereby proved of what is built.
-/

namespace EntityMapper

namespace Sql

/-- A piece of a statement. -/
inductive Fragment where
  /-- Text that goes into the statement. -/
  | text (s : String)
  /-- A value that becomes a parameter. -/
  | value (v : Value)

/-- A statement whose values are not numbered yet. -/
abbrev Template := List Fragment

namespace Template

/-- The values in the order in which they stand. -/
def values : Template → List Value
  | [] => []
  | .text _ :: rest => values rest
  | .value v :: rest => v :: values rest

/-- The characters of the text if `bound` parameters precede it. -/
def chars (bound : Nat) : Template → List Char
  | [] => []
  | .text s :: rest => s.toList ++ chars bound rest
  | .value _ :: rest => (placeholder (bound + 1)).toList ++ chars (bound + 1) rest

/-- The text if `bound` parameters precede it. -/
def text (bound : Nat) (t : Template) : String := String.ofList (t.chars bound)

/-- The statement of a whole template. -/
def statement (t : Template) : Statement := ⟨t.text 0, t.values⟩

/-- A template between round brackets. -/
def parenthesized (t : Template) : Template := .text "(" :: t ++ [.text ")"]

/-- Templates with a text between each two. -/
def joined (separator : String) : List Template → Template
  | [] => []
  | [t] => t
  | t :: rest => t ++ .text separator :: joined separator rest

/-! ## Texts and values -/

theorem chars_append (bound : Nat) (t u : Template) :
    chars bound (t ++ u) = chars bound t ++ chars (bound + t.values.length) u := by
  induction t generalizing bound with
  | nil => rfl
  | cons f t ih =>
      cases f with
      | text s => simp [chars, values, ih]
      | value v =>
          simp [chars, values, ih, Nat.add_assoc, Nat.add_comm 1]

theorem values_append (t u : Template) : values (t ++ u) = values t ++ values u := by
  induction t with
  | nil => rfl
  | cons f t ih => cases f <;> simp [values, ih]

theorem text_append (k : Nat) (t u : Template) :
    (t ++ u).text k = t.text k ++ u.text (k + t.values.length) := by
  rw [text, chars_append, String.ofList_append]
  rfl

theorem text_nil (k : Nat) : Template.text k [] = "" := rfl

theorem text_cons (k : Nat) (s : String) (t : Template) :
    Template.text k (.text s :: t) = s ++ t.text k := by
  rw [text, chars, String.ofList_append, String.ofList_toList]
  rfl

theorem text_value (k : Nat) (v : Value) : Template.text k [.value v] = placeholder (k + 1) := by
  simp [text, chars]

theorem values_nil : Template.values [] = [] := rfl

theorem values_text (s : String) (t : Template) : values (.text s :: t) = t.values := rfl

theorem values_joined (separator : String) (parts : List Template) :
    (joined separator parts).values = parts.flatMap values := by
  induction parts with
  | nil => rfl
  | cons t parts ih =>
      cases parts with
      | nil => simp [joined]
      | cons u parts =>
          change (t ++ .text separator :: joined separator (u :: parts)).values = _
          rw [values_append, values, ih]
          rfl

/-- The texts of templates that are built one after another. -/
def texts (k : Nat) : List Template → List String
  | [] => []
  | t :: rest => t.text k :: texts (k + t.values.length) rest

theorem text_joined (separator : String) (k : Nat) (parts : List Template) :
    (joined separator parts).text k = String.intercalate separator (texts k parts) := by
  induction parts generalizing k with
  | nil => rfl
  | cons t parts ih =>
      cases parts with
      | nil => exact String.intercalate_singleton.symm
      | cons u parts =>
          change (t ++ .text separator :: joined separator (u :: parts)).text k = _
          rw [text_append, text_cons, ih]
          change _ = String.intercalate separator (t.text k :: u.text _ :: texts _ parts)
          rw [String.intercalate_cons_cons, String.append_assoc]
          rfl

/-! ## Parts -/

/-- The part that a template becomes: its text, numbered behind what the binder holds, and its
values behind those. -/
def part (t : Template) : Builder := fun b => (t.text b.values.length, ⟨b.values ++ t.values⟩)

/-- The part that a template becomes if there is one. -/
def checked (x : Except Error Template) : CheckedBuilder := fun b => x.map fun t => t.part.run b

theorem pure_eq_part (s : String) : (pure s : Builder) = part [.text s] := by
  funext b
  change (s, b) = (Template.text _ [.text s], ⟨b.values ++ []⟩)
  rw [text_cons, text_nil, String.append_empty, List.append_nil]

theorem pure_empty_eq_part : (pure "" : Builder) = part [] := by
  funext b
  exact Prod.ext rfl (congrArg Binder.mk (List.append_nil _).symm)

theorem add_eq_part (v : Value) : Binder.add v = part [.value v] := by
  funext b
  change (placeholder _, _) = (Template.text _ [.value v], _)
  rw [text_value]
  rfl

/-- What is built after a template finds the template's values in the binder. -/
theorem part_bind {α : Type} (t : Template) (f : String → StateM Binder α) (b : Binder) :
    (t.part >>= f).run b = (f (t.text b.values.length)).run ⟨b.values ++ t.values⟩ := rfl

/-- Two parts with a text between them are built as the joined template. -/
theorem part_append (t u : Template) (s : String) :
    (do let a ← t.part; let b ← u.part; return a ++ s ++ b) = (t ++ .text s :: u).part := by
  funext b
  refine Prod.ext ?_ ?_
  · change t.text _ ++ s ++ u.text (b.values ++ t.values).length = _
    rw [part, text_append, text_cons, List.length_append, String.append_assoc]
  · change (⟨b.values ++ t.values ++ u.values⟩ : Binder) = ⟨b.values ++ values _⟩
    rw [values_append, values_text, List.append_assoc]

theorem part_lead (s : String) (t : Template) :
    (do let a ← t.part; return s ++ a) = part (.text s :: t) := by
  funext b
  refine Prod.ext ?_ rfl
  change s ++ t.text _ = text _ (.text s :: t)
  rw [text_cons]

theorem bracketed_part (wraps : Bool) (t : Template) :
    Builder.bracketed wraps t.part = part (if wraps then t.parenthesized else t) := by
  cases wraps with
  | false => rfl
  | true =>
      funext b
      refine Prod.ext ?_ ?_
      · change "(" ++ t.text _ ++ ")" = text _ (.text "(" :: (t ++ [.text ")"]))
        rw [text_cons, text_append, text_cons, text_nil, String.append_empty, String.append_assoc]
      · change (⟨b.values ++ t.values⟩ : Binder) = ⟨b.values ++ values (t ++ [.text ")"])⟩
        rw [values_append, values_text, values, List.append_nil]

/-- Brackets are written around what a template is built as. -/
theorem parenthesized_bind {α : Type} (t : Template) (f : String → StateM Binder α) :
    t.parenthesized.part >>= f = (do let a ← t.part; f ("(" ++ a ++ ")")) := by
  have hbracketed := bracketed_part true t
  rw [if_pos rfl] at hbracketed
  rw [← hbracketed, Builder.bracketed, bind_assoc]
  simp only [if_true, pure_bind]

theorem mapM_part {α : Type} {f : α → Builder} {g : α → Template} (h : ∀ a, f a = (g a).part)
    (as : List α) (b : Binder) : (as.mapM f).run b
      = (texts b.values.length (as.map g), ⟨b.values ++ (as.map g).flatMap values⟩) := by
  induction as generalizing b with
  | nil => exact Prod.ext rfl (congrArg Binder.mk (List.append_nil _).symm)
  | cons a as ih =>
      have hrest := ih ⟨b.values ++ (g a).values⟩
      simp only [List.length_append, List.append_assoc] at hrest
      rw [List.mapM_cons, h a, part_bind, StateT.run_bind, hrest]
      rfl

/-- Parts with a text between each two are built as the joined templates. -/
theorem intercalate_part {α : Type} {f : α → Builder} {g : α → Template}
    (h : ∀ a, f a = (g a).part) (separator : String) (as : List α) :
    (do let parts ← as.mapM f; return String.intercalate separator parts)
      = (joined separator (as.map g)).part := by
  funext b
  have hrun := mapM_part h as b
  rw [← values_joined separator] at hrun
  rw [part, text_joined]
  exact congrArg (fun r => (String.intercalate separator r.1, r.2)) hrun

theorem mapM_checked {α : Type} {f : α → CheckedBuilder} {g : α → Except Error Template}
    (h : ∀ a, f a = checked (g a)) (as : List α) (b : Binder) : (as.mapM f).run b
      = (as.mapM g).map fun ts => (texts b.values.length ts, ⟨b.values ++ ts.flatMap values⟩) := by
  induction as generalizing b with
  | nil => exact congrArg Except.ok (Prod.ext rfl (congrArg Binder.mk (List.append_nil _).symm))
  | cons a as ih =>
      rw [List.mapM_cons, List.mapM_cons, h a, StateT.run_bind]
      cases g a with
      | error e => rfl
      | ok t =>
          have hrest := ih ⟨b.values ++ t.values⟩
          simp only [List.length_append, List.append_assoc] at hrest
          change ((as.mapM f).run ⟨b.values ++ t.values⟩ >>= fun r => _) = _
          rw [hrest]
          cases as.mapM g <;> rfl

theorem liftM_part (t : Template) : (liftM t.part : CheckedBuilder) = checked (.ok t) := rfl

/-- What is found out first may refuse the part. -/
theorem liftM_bind_checked {α : Type} {f : α → CheckedBuilder} {g : α → Except Error Template}
    (x : Except Error α) (h : ∀ a, f a = checked (g a)) :
    (liftM x >>= f : CheckedBuilder) = checked (x >>= g) := by
  cases x with
  | error e => rfl
  | ok a => exact h a

/-- Checked parts with a text between each two, and one before them. -/
theorem intercalate_checked {α : Type} {f : α → CheckedBuilder} {g : α → Except Error Template}
    (h : ∀ a, f a = checked (g a)) (lead separator : String) (as : List α) :
    (do let parts ← as.mapM f; return lead ++ String.intercalate separator parts)
      = checked (do let ts ← as.mapM g; return .text lead :: joined separator ts) := by
  funext b
  have hrun := mapM_checked h as b
  change ((as.mapM f).run b >>= fun r =>
    .ok (lead ++ String.intercalate separator r.1, r.2)) = _
  rw [hrun]
  cases as.mapM g with
  | error e => rfl
  | ok ts =>
      refine congrArg Except.ok (Prod.ext ?_ ?_)
      · change lead ++ String.intercalate separator (texts _ ts) = text _ (.text lead :: _)
        rw [text_cons, text_joined]
      · change (⟨b.values ++ ts.flatMap values⟩ : Binder) = ⟨b.values ++ values (joined _ ts)⟩
        rw [values_joined]

end Template

end Sql

/-! ## Expressions -/

namespace Expr

open Sql

/-- Puts a template into brackets if told so. -/
def bracketed (wraps : Bool) (t : Template) : Template := if wraps then t.parenthesized else t

/-- The template of an operator between two operands. -/
def binaryTemplate (op : BinaryOp) (left right : Template) : Template :=
  bracketed op.isBoolean (left ++ .text (" " ++ op.symbol ++ " ") :: right)

/-- The values of a list, each a parameter, with commas between them. -/
def listTemplate (items : List Value) : Template :=
  Template.joined ", " (items.map fun v => [.value v])

/-- The template of an expression. A list of values after IN becomes one parameter for each; the
empty list becomes a condition that never holds, and what was to be looked for is left out. -/
def template : Expr → Template
  | .column c => [.text c.qualifiedName]
  | .literal v => [.value v]
  | .binary left .isIn (.literal (.array items)) =>
    if items.isEmpty then [.text "1=0"]
    else bracketed (left.wrapsUnder .isIn false) (template left) ++ .text " IN " ::
      (listTemplate items).parenthesized
  | .binary left .isIn right =>
    bracketed (left.wrapsUnder .isIn false) (template left) ++ .text " IN " ::
      (template right).parenthesized
  | .binary left op right =>
    binaryTemplate op (bracketed (left.wrapsUnder op false) (template left))
      (bracketed (right.wrapsUnder op true) (template right))
  | .unary op operand =>
    .text (op.symbol ++ " ") :: bracketed (operand.wrapsUnderUnary op) (template operand)

theorem bracketed_part (wraps : Bool) (t : Template) :
    Builder.bracketed wraps t.part = (bracketed wraps t).part := Template.bracketed_part wraps t

/-- A list in brackets after IN. -/
theorem in_part (left list : Template) :
    (do let a ← left.part; let b ← list.part; return a ++ " IN (" ++ b ++ ")")
      = Template.part (left ++ .text " IN " :: list.parenthesized) := by
  rw [← Template.part_append]
  refine congrArg (left.part >>= ·) (funext fun a => ?_)
  rw [Template.parenthesized_bind]
  refine congrArg (list.part >>= ·) (funext fun b => ?_)
  have hopen : " IN (" = " IN " ++ "(" := rfl
  simp only [hopen, String.append_assoc]

/-- **An expression is built as its template says**, into any binder. -/
theorem build_eq_part (e : Expr) : e.build = e.template.part := by
  fun_induction Expr.template e with
  | case1 c => exact Template.pure_eq_part _
  | case2 v => exact Template.add_eq_part v
  | case3 left items hnil => rw [build, if_pos hnil, Template.pure_eq_part]
  | case4 left items hne ih =>
      rw [build, if_neg hne, ih, bracketed_part, ← in_part, listTemplate,
        ← Template.intercalate_part Template.add_eq_part]
      simp only [bind_assoc, pure_bind]
  | case5 left right hlist ih₁ ih₂ =>
      rw [build, ih₁, ih₂, bracketed_part, ← in_part]
      exact hlist
  | case6 left op right hlist hop ih₁ ih₂ =>
      rw [build, ih₁, ih₂, bracketed_part (left.wrapsUnder op false),
        bracketed_part (right.wrapsUnder op true)]
      · rw [binaryTemplate, ← bracketed_part op.isBoolean, ← Template.part_append]
        simp only [String.append_assoc]
      · exact hlist
      · exact hop
  | case7 op operand ih => rw [build, ih, bracketed_part, Template.part_lead]

theorem statement_eq (e : Expr) : e.statement = e.template.statement := by
  rw [statement, build_eq_part]
  rfl

theorem text_eq (e : Expr) : e.text = e.template.text 0 := by
  rw [text, statement_eq]
  rfl

theorem params_eq (e : Expr) : e.statement.params = e.template.values := by
  rw [statement_eq]
  rfl

end Expr

/-! ## Statements -/

namespace Query

open Sql

/-- The columns that are read: all of them, or those that are named, with their table. -/
def selectTemplate (q : Query) (columns : List String) : Except Error Template :=
  if columns.isEmpty then .ok [.text "SELECT *"]
  else do
    let rendered ← columns.mapM fun name => do
      let c ← q.entity.schema.column name
      let e ← c.toExpr
      return e.template
    return .text "SELECT " :: Template.joined "," rendered

/-- The condition, if there is one. -/
def whereTemplate (q : Query) : Template :=
  match q.filter with
  | some e => .text " WHERE " :: e.template
  | none => []

/-- A clause of the page; zero is no clause. -/
def pageClause (clause : String) : Option Int64 → Template
  | some n => if n = 0 then [] else [.text clause, .value (.int n)]
  | none => []

/-- The statement that reads rows. -/
def fetchTemplate (q : Query) (columns : List String) : Except Error Template := do
  let select ← q.selectTemplate columns
  return select ++ .text (" FROM " ++ q.entity.table) :: q.whereTemplate ++
    pageClause " LIMIT " q.limit ++ pageClause " OFFSET " q.offset

/-- The statement that reads the first row. -/
def fetchOneTemplate (q : Query) (columns : List String) : Except Error Template := do
  q.rejectPage "a single-row SELECT"
  let select ← q.selectTemplate columns
  return select ++ .text (" FROM " ++ q.entity.table) :: q.whereTemplate ++ [.text " LIMIT 1"]

/-- One assignment of an update. -/
def assignmentTemplate (q : Query) (assignment : String × Operand) : Except Error Template := do
  let (name, operand) := assignment
  let c ← q.entity.schema.column name
  let e ← operand.toExpr
  match e with
  | .literal v => Instance.checkAssignment c v
  | _ => .ok ()
  return .text (name ++ "=") :: e.template

/-- The statement that changes rows. -/
def updateTemplate (q : Query) (assignments : List (String × Operand)) : Except Error Template := do
  q.rejectPage "UPDATE"
  let sets ← assignments.mapM q.assignmentTemplate
  if sets.isEmpty then .error q.noAssignment
  else return .text ("UPDATE " ++ q.entity.table ++ " SET ") :: Template.joined "," sets ++
    q.whereTemplate

/-- The statement that deletes rows. -/
def deleteTemplate (q : Query) : Except Error Template := do
  q.rejectPage "DELETE"
  return .text ("DELETE FROM " ++ q.entity.table) :: q.whereTemplate

/-- The columns and values of a new row. -/
def rowTemplate (values : List (String × Value)) : Template :=
  if values.isEmpty then [.text " DEFAULT VALUES"]
  else .text (" (" ++ String.intercalate "," (values.map (·.1)) ++ ") VALUES ") ::
    (Template.joined "," (values.map fun (_, v) => [.value v])).parenthesized

/-- The statement that stores an instance as a new row. -/
def insertTemplate (q : Query) (i : Instance) : Except Error Template :=
  if q.entity.same i.entity then
    .ok (.text ("INSERT INTO " ++ q.entity.table) :: rowTemplate i.values ++
      (if q.returnsGenerated i then [.text " RETURNING *"] else []))
  else .error (q.foreignInstance i)

theorem buildSelect_eq_checked (q : Query) (columns : List String) :
    q.buildSelect columns = Template.checked (q.selectTemplate columns) := by
  unfold buildSelect selectTemplate
  split
  · rw [← Template.liftM_part, ← Template.pure_eq_part]
    rfl
  · refine Template.intercalate_checked (fun name => ?_) "SELECT " "," columns
    refine Template.liftM_bind_checked _ fun c => Template.liftM_bind_checked _ fun e => ?_
    rw [e.build_eq_part, Template.liftM_part]
    rfl

theorem buildWhere_eq_part (q : Query) : q.buildWhere = q.whereTemplate.part := by
  unfold buildWhere whereTemplate
  cases q.filter with
  | none => exact Template.pure_empty_eq_part
  | some e =>
      change (do let w ← e.build; return " WHERE " ++ w) = _
      rw [e.build_eq_part, Template.part_lead]

theorem buildPage_eq_part (clause : String) (n : Option Int64) :
    buildPage clause n = (pageClause clause n).part := by
  cases n with
  | none => exact Template.pure_empty_eq_part
  | some n =>
      change (if n = 0 then pure "" else (do let p ← Binder.add (.int n); return clause ++ p))
        = Template.part (if n = 0 then [] else [.text clause, .value (.int n)])
      split
      · exact Template.pure_empty_eq_part
      · rw [Template.add_eq_part, Template.part_lead]

theorem buildAssignment_eq_checked (q : Query) (assignment : String × Operand) :
    q.buildAssignment assignment = Template.checked (q.assignmentTemplate assignment) := by
  obtain ⟨name, operand⟩ := assignment
  refine Template.liftM_bind_checked _ fun c => Template.liftM_bind_checked _ fun e => ?_
  have hbuilt : (do let w ← liftM e.build; return name ++ "=" ++ w : CheckedBuilder)
      = Template.checked (.ok (.text (name ++ "=") :: e.template)) := by
    rw [← Template.liftM_part, ← Template.part_lead, e.build_eq_part]
    rfl
  cases e with
  | literal v => exact Template.liftM_bind_checked _ fun _ => hbuilt
  | column c | binary left op right | unary op operand => exact hbuilt

theorem buildRow_eq_part (values : List (String × Value)) :
    buildRow values = (rowTemplate values).part := by
  unfold rowTemplate
  cases values with
  | nil => exact Template.pure_eq_part _
  | cons p values =>
      have hitems := Template.intercalate_part (f := fun (p : String × Value) => Binder.add p.2)
        (g := fun p => [.value p.2]) (fun p => Template.add_eq_part p.2) "," (p :: values)
      change _ = Template.part (.text _ :: (Template.joined "," _).parenthesized)
      rw [← Template.part_lead, Template.parenthesized_bind, ← hitems]
      simp only [bind_assoc, pure_bind]
      have hopen : ") VALUES (" = ") VALUES " ++ "(" := rfl
      refine congrArg (_ >>= ·) (funext fun placeholders => ?_)
      simp only [List.isEmpty_cons, Bool.false_eq_true, if_false, hopen, String.append_assoc]

theorem fetchStatement_eq (q : Query) (columns : List String) :
    q.fetchStatement columns = (q.fetchTemplate columns).map Template.statement := by
  rw [fetchStatement, fetchTemplate, buildSelect_eq_checked, buildWhere_eq_part, buildPage_eq_part,
    buildPage_eq_part]
  cases q.selectTemplate columns with
  | error e => rfl
  | ok select =>
      change Except.ok (Statement.mk _ _) = Except.ok (Statement.mk _ _)
      simp only [Template.text_append, Template.text_cons, Template.values_append,
        Template.values_text, String.append_assoc, List.nil_append, List.length_nil, Nat.zero_add]

theorem fetchOneStatement_eq (q : Query) (columns : List String) :
    q.fetchOneStatement columns = (q.fetchOneTemplate columns).map Template.statement := by
  rw [fetchOneStatement, fetchOneTemplate, buildSelect_eq_checked, buildWhere_eq_part]
  cases q.rejectPage "a single-row SELECT" with
  | error e => rfl
  | ok u =>
      cases q.selectTemplate columns with
      | error e => rfl
      | ok select =>
          change Except.ok (Statement.mk _ _) = Except.ok (Statement.mk _ _)
          simp only [Template.text_append, Template.text_cons, Template.text_nil,
            Template.values_append, Template.values_text, Template.values_nil,
            String.append_assoc, String.append_empty, List.nil_append, List.append_nil,
            List.length_nil, Nat.zero_add]

theorem updateStatement_eq (q : Query) (assignments : List (String × Operand)) :
    q.updateStatement assignments = (q.updateTemplate assignments).map Template.statement := by
  rw [updateStatement, updateTemplate, buildWhere_eq_part]
  cases q.rejectPage "UPDATE" with
  | error e => rfl
  | ok u =>
      have hsets := Template.mapM_checked q.buildAssignment_eq_checked assignments {}
      change (((assignments.mapM q.buildAssignment).run {} >>= fun r => _) >>= fun r => _) = _
      rw [hsets]
      cases assignments.mapM q.assignmentTemplate with
      | error e => rfl
      | ok sets =>
          cases sets with
          | nil => rfl
          | cons t sets =>
              change Except.ok (Statement.mk _ _) = Except.ok (Statement.mk _ _)
              simp only [Template.text_append, Template.text_cons, Template.text_joined,
                Template.values_append, Template.values_text, Template.values_joined,
                String.append_assoc, List.nil_append, List.length_nil, Nat.zero_add]

theorem deleteStatement_eq (q : Query) :
    q.deleteStatement = q.deleteTemplate.map Template.statement := by
  rw [deleteStatement, deleteTemplate, buildWhere_eq_part]
  cases q.rejectPage "DELETE" with
  | error e => rfl
  | ok u =>
      change Except.ok (Statement.mk _ _) = Except.ok (Statement.mk _ _)
      simp only [Template.text_cons, Template.values_text, List.nil_append, List.length_nil]

theorem insertStatement_eq (q : Query) (i : Instance) :
    q.insertStatement i = (q.insertTemplate i).map Template.statement := by
  rw [insertStatement, insertTemplate, buildRow_eq_part]
  split
  · change Except.ok (Statement.mk _ _) = Except.ok (Statement.mk _ _)
    split <;> simp only [Template.text_append, Template.text_cons, Template.text_nil,
      Template.values_append, Template.values_text, Template.values_nil, String.append_assoc,
      String.append_empty, List.nil_append, List.append_nil, List.length_nil]
  · rfl

end Query

end EntityMapper
