import EntityMapper.Proofs.Registration

/-!
# What the statements of a query say

Each statement of a query is read as its clauses, every literal in its own place: the pieces of the
statements are given here once, and that they are read back whatever the filter and the assignments
are. All that is asked is that names are identifiers, which registration sees to for the entity.
-/

namespace EntityMapper

open Sql

/-! ## Lists in statements -/

namespace Sql

/-- Parts with a comma between each two. -/
def listed : List (List Piece) → List Piece
  | [] => []
  | [ps] => ps
  | ps :: rest => ps ++ .token (.mark ",") :: listed rest

theorem pieces_joined {separator : String} (hs : tokens separator.toList = some [.mark ","])
    (parts : List Template) :
    (Template.joined separator parts).pieces = listed (parts.map Template.pieces) := by
  induction parts with
  | nil => rfl
  | cons t parts ih =>
      cases parts with
      | nil => rfl
      | cons u parts =>
          change Template.pieces
            (t ++ .text separator :: Template.joined separator (u :: parts)) = _
          rw [Template.pieces_append, Template.pieces_text_cons hs, ih]
          rfl

/-- Identifiers with commas between them are read as the list of them. -/
theorem tokens_names {names : List String} (h : ∀ n ∈ names, isIdentifier n = true) :
    tokens (String.intercalate "," names).toList
      = some ((names.map Token.word).intersperse (.mark ",")) := by
  induction names with
  | nil => rfl
  | cons n names ih =>
      have hn : isIdentifier n = true := h n (List.mem_cons_self ..)
      have hrest := ih fun m hm => h m (List.mem_cons_of_mem _ hm)
      cases names with
      | nil => simpa using tokens_identifier hn
      | cons m names =>
          have hcomma : tokens [','] = some [.mark ","] := by decide
          have hend : EndsFree [','] := by decide
          rw [String.intercalate_cons_cons, String.toList_append, String.toList_append,
            List.append_assoc, tokens_append (separated_of_startsFree ?_) (tokens_identifier hn)]
          · change (tokens ([','] ++ _)).map _ = _
            rw [tokens_append (separated_of_endsFree hend) hcomma, hrest]
            rfl
          · change StartsFree (',' :: _)
            exact fun c hc => by cases hc; decide

end Sql

theorem mapM_ok_map {ε α β γ : Type} {f : α → Except ε β} {g : β → γ} {k : α → γ} {as : List α}
    {bs : List β} (h : as.mapM f = .ok bs) (hk : ∀ a ∈ as, ∀ b, f a = .ok b → g b = k a) :
    bs.map g = as.map k := by
  induction as generalizing bs with
  | nil => cases h; rfl
  | cons a as ih =>
      rw [List.mapM_cons, bind_eq_ok] at h
      obtain ⟨b, hb, h⟩ := h
      rw [bind_eq_ok] at h
      obtain ⟨rest, hrest, h⟩ := h
      cases h
      rw [List.map_cons, List.map_cons, hk a (List.mem_cons_self ..) b hb,
        ih hrest fun a' ha' => hk a' (List.mem_cons_of_mem _ ha')]

theorem mapM_ok_mem {ε α β : Type} {f : α → Except ε β} {as : List α} {bs : List β}
    (h : as.mapM f = .ok bs) : ∀ b ∈ bs, ∃ a ∈ as, f a = .ok b := by
  induction as generalizing bs with
  | nil => cases h; simp
  | cons a as ih =>
      rw [List.mapM_cons, bind_eq_ok] at h
      obtain ⟨b, hb, h⟩ := h
      rw [bind_eq_ok] at h
      obtain ⟨rest, hrest, h⟩ := h
      cases h
      intro c hc
      rcases List.mem_cons.mp hc with rfl | hc
      · exact ⟨a, by simp, hb⟩
      · obtain ⟨a', ha', h'⟩ := ih hrest c hc
        exact ⟨a', by simp [ha'], h'⟩

theorem exists_mapM {ε α β : Type} {f : α → Except ε β} {as : List α}
    (h : ∀ a ∈ as, ∃ b, f a = .ok b) :
    ∃ bs, as.mapM f = .ok bs ∧ bs.length = as.length := by
  induction as with
  | nil => exact ⟨[], rfl, rfl⟩
  | cons a as ih =>
      obtain ⟨b, hb⟩ := h a (List.mem_cons_self ..)
      obtain ⟨bs, hbs, hlength⟩ := ih fun a' ha' => h a' (List.mem_cons_of_mem _ ha')
      refine ⟨b :: bs, ?_, congrArg (· + 1) hlength⟩
      rw [List.mapM_cons, hb, hbs]
      rfl

/-- Readable parts with commas between them are read as the list of what they say. -/
theorem Sql.Template.says_joined {parts : List Template} (h : ∀ t ∈ parts, t.Readable) :
    Says (joined "," parts) (listed (parts.map pieces)) := by
  have hcomma : IsSeparator "," [.mark ","] := by decide
  exact ⟨readable_joined hcomma h, pieces_joined hcomma.tokens parts⟩

/-- Parts of a statement that are rendered one by one are read one by one. -/
theorem says_listed {α : Type} {f : α → Except Error Template} {g : α → List Piece} {as : List α}
    {parts : List Template} (h : as.mapM f = .ok parts)
    (hf : ∀ a ∈ as, ∀ t, f a = .ok t → t.Says (g a)) :
    Template.Says (Template.joined "," parts) (listed (as.map g)) := by
  rw [← mapM_ok_map h fun a ha t ht => (hf a ha t ht).pieces]
  refine Template.says_joined fun t ht => ?_
  obtain ⟨a, ha, ht⟩ := mapM_ok_mem h t ht
  exact (hf a ha t ht).readable

/-! ## Operands -/

namespace Operand

/-- The columns of an operand from left to right. -/
def columns (o : Operand) : List ColumnRef :=
  match o.toExpr with
  | .ok e => e.columns
  | .error _ => []

/-- The literals of an operand from left to right. -/
def literals (o : Operand) : List Value :=
  match o.toExpr with
  | .ok e => e.literals
  | .error _ => []

/-- What the text of an operand says. -/
def pieces (o : Operand) : List Piece :=
  match o.toExpr with
  | .ok e => e.template.pieces
  | .error _ => []

end Operand

/-- A column of a registered entity is written with the table and its name. -/
theorem Schema.WellFormed.toExpr_of_mem {s : Schema} (h : s.WellFormed) {name : String} {c : Column}
    (hc : (name, c) ∈ s.columns) : c.toExpr = .ok (.column ⟨s.table, name, c.type⟩) := by
  have hbound : c.binding = some ⟨s.table, name⟩ := h.columns.bound _ hc
  simp [Column.toExpr, Column.toRef, hbound, Except.map]

theorem Schema.WellFormed.toExpr {s : Schema} (h : s.WellFormed) {name : String} {c : Column}
    (hc : s.column name = .ok c) : c.toExpr = .ok (.column ⟨s.table, name, c.type⟩) :=
  h.toExpr_of_mem (Schema.mem_columns_of_column hc)

/-- A column of a registered entity is named. -/
theorem Schema.WellFormed.isNamed {s : Schema} (h : s.WellFormed) {name : String} {c : Column}
    (hc : s.column name = .ok c) : ColumnRef.IsNamed ⟨s.table, name, c.type⟩ :=
  ⟨h.table, h.columns.named _ (Schema.mem_columns_of_column hc)⟩

/-! ## The character after an equals sign -/

/-- Whether a template begins with a character that does not go on with an equals sign. -/
def OpensApart (t : Template) : Prop :=
  ∀ (bound : Nat) (rest : List Char), ∃ c, (t.chars bound ++ rest).head? = some c
    ∧ adjoins '=' c = false

theorem opensApart_text {s : String} {c : Char} (hs : s.toList.head? = some c)
    (hc : adjoins '=' c = false) (t : Template) : OpensApart (.text s :: t) := fun bound rest =>
  ⟨c, by rw [Template.chars, List.append_assoc, List.head?_append, hs]; rfl, hc⟩

theorem opensApart_append {t : Template} (h : OpensApart t) (u : Template) : OpensApart (t ++ u) :=
  fun bound rest => by
    rw [Template.chars_append, List.append_assoc]
    exact h bound _

theorem opensApart_bracketed {t : Template} (h : OpensApart t) (wraps : Bool) :
    OpensApart (Expr.bracketed wraps t) := by
  cases wraps
  · exact h
  · exact opensApart_text (c := '(') rfl (by decide) _

/-- An expression does not go on with an equals sign before it. -/
theorem Expr.opensApart (e : Expr) (h : ∀ c ∈ e.columns, c.IsNamed) : OpensApart e.template := by
  fun_induction Expr.template e with
  | case1 c =>
      have htable := (h c (by simp [columns])).1
      obtain ⟨d, rest, hs, -, -⟩ := isIdentifierChars_cons htable
      have hname : isNameChar d = true := isNameChar_of_mem htable d (by simp [hs])
      refine opensApart_text (c := d) ?_ (adjoins_operator_name (by decide) hname) []
      simp [ColumnRef.qualifiedName, hs]
  | case2 v =>
      intro bound rest
      refine ⟨'$', ?_, by decide⟩
      simp [Template.chars, placeholder]
  | case3 left items hnil => exact opensApart_text (c := '1') rfl (by decide) []
  | case4 left items hne ih =>
      have hleft := opensApart_bracketed (ih fun c hc => h c (by simp [columns, hc]))
      exact opensApart_append (hleft _) _
  | case5 left right hlist ih₁ ih₂ =>
      have hleft := opensApart_bracketed (ih₁ fun c hc => h c (by simp [columns, hc]))
      exact opensApart_append (hleft _) _
  | case6 left op right hlist hop ih₁ ih₂ =>
      have hleft := opensApart_bracketed (ih₁ fun c hc => h c (by simp [columns, hc]))
      exact opensApart_bracketed (opensApart_append (hleft _) _) _
  | case7 op operand ih => cases op <;> exact opensApart_text rfl (by decide) _

/-! ## Clauses -/

namespace Query

variable {q : Query}

/-- The columns of the condition. -/
def filterColumns (q : Query) : List ColumnRef := (q.filter.map Expr.columns).getD []

/-- Whether the entity is registered and the columns of the condition are named by identifiers. -/
structure IsNamed (q : Query) : Prop where
  entity : q.entity.IsRegistered
  filter : ∀ c ∈ q.filterColumns, c.IsNamed

/-- What the list of columns to read says. -/
def selectPieces (q : Query) (columns : List String) : List Piece :=
  .token (.word "SELECT") ::
    if columns.isEmpty then [.token (.mark "*")]
    else listed (columns.map fun name => [.token (.column q.entity.table name)])

/-- What the condition says. -/
def wherePieces (q : Query) : List Piece :=
  match q.filter with
  | some e => .token (.word "WHERE") :: e.template.pieces
  | none => []

/-- What a clause of the page says. -/
def pagePieces (clause : String) : Option Int64 → List Piece
  | some n => if n = 0 then [] else [.token (.word clause), .value (.int n)]
  | none => []

/-- What an assignment says. -/
def assignmentPieces (assignment : String × Operand) : List Piece :=
  [.token (.word assignment.1), .token (.mark "=")] ++ assignment.2.pieces

/-- The literals of the condition. -/
def filterLiterals (q : Query) : List Value := (q.filter.map Expr.literals).getD []

/-- The number of a clause of the page. -/
def pageValues : Option Int64 → List Value
  | some n => if n = 0 then [] else [.int n]
  | none => []

theorem says_select {columns : List String} {t : Template} (hq : q.entity.IsRegistered)
    (h : q.selectTemplate columns = .ok t) : t.Says (q.selectPieces columns) := by
  unfold selectTemplate at h
  unfold selectPieces
  split at h
  · rename_i hempty
    cases h
    rw [if_pos hempty]
    have hall : IsPhrase "SELECT *" [.word "SELECT", .mark "*"] := by decide
    exact Template.says_text hall
  · rename_i hempty
    rw [bind_eq_ok] at h
    obtain ⟨rendered, hrendered, h⟩ := h
    cases h
    -- each name is rendered as the column that it is
    have hcolumn : ∀ name t, (do
        let c ← q.entity.schema.column name
        let e ← c.toExpr
        return e.template : Except Error Template) = .ok t →
        t.Says [.token (.column q.entity.table name)] := by
      intro name t ht
      rw [bind_eq_ok] at ht
      obtain ⟨c, hc, ht⟩ := ht
      rw [hq.wellFormed.toExpr hc] at ht
      cases ht
      exact Template.says_text (Expr.isPhrase_qualifiedName (hq.wellFormed.isNamed hc))
    have hselect : IsLead "SELECT " [.word "SELECT"] := by decide
    rw [if_neg hempty]
    exact (says_listed hrendered fun name _ => hcolumn name).text_cons hselect

theorem says_where (hq : ∀ c ∈ q.filterColumns, c.IsNamed) :
    q.whereTemplate.Says q.wherePieces := by
  unfold filterColumns at hq
  unfold whereTemplate wherePieces
  cases hf : q.filter with
  | none => exact Template.says_nil
  | some e =>
      rw [hf] at hq
      have hwhere : IsLead " WHERE " [.word "WHERE"] := by decide
      exact Template.Says.text_cons ⟨e.readable_template hq, rfl⟩ hwhere

theorem followsFree_where (q : Query) : q.whereTemplate.FollowsFree := by
  unfold whereTemplate
  cases q.filter with
  | none => exact Template.followsFree_nil
  | some e => exact Template.followsFree_text (by decide) _

theorem says_page {clause word : String} (hs : IsLead clause [.word word]) (n : Option Int64) :
    Template.Says (pageClause clause n) (pagePieces word n) := by
  cases n with
  | none => exact Template.says_nil
  | some n =>
      by_cases hz : n = 0
      · rw [pageClause, pagePieces, if_pos hz, if_pos hz]
        exact Template.says_nil
      · rw [pageClause, pagePieces, if_neg hz, if_neg hz]
        exact Template.Says.text_cons ⟨Template.readable_value _, rfl⟩ hs

theorem followsFree_page {clause : String} (hb : clause.toList.head?.any isBreak = true)
    (n : Option Int64) : Template.FollowsFree (pageClause clause n) := by
  cases n with
  | none => exact Template.followsFree_nil
  | some n =>
      by_cases hz : n = 0
      · rw [pageClause, if_pos hz]
        exact Template.followsFree_nil
      · rw [pageClause, if_neg hz]
        exact Template.followsFree_text hb _

/-- The table of a registered entity behind keywords. -/
theorem isPhrase_table {e : Entity} (he : e.IsRegistered) {s : String} {w : List Token}
    (hs : IsLead s w) : IsPhrase (s ++ e.table) (w ++ [.word e.table]) := by
  have htable : tokens e.table.toList = some [.word e.table] :=
    tokens_identifier he.wellFormed.table
  refine ⟨?_, fun x hx => ?_⟩
  · rw [String.toList_append, tokens_append (separated_of_endsFree hs.ends) hs.tokens, htable]
    rfl
  · rcases List.mem_append.mp hx with hx | hx
    · exact hs.plain x hx
    · rw [List.mem_singleton.mp hx]
      rfl

/-- What an assignment is rendered from. -/
theorem assignmentTemplate_ok {name : String} {operand : Operand} {t : Template}
    (h : q.assignmentTemplate (name, operand) = .ok t) :
    ∃ c e, q.entity.schema.column name = .ok c ∧ operand.toExpr = .ok e
      ∧ (∀ v, e = .literal v → Instance.checkAssignment c v = .ok ())
      ∧ t = .text (name ++ "=") :: e.template := by
  unfold assignmentTemplate at h
  rw [bind_eq_ok] at h
  obtain ⟨c, hc, h⟩ := h
  rw [bind_eq_ok] at h
  obtain ⟨e, he, h⟩ := h
  refine ⟨c, e, hc, he, ?_⟩
  -- only a literal is checked against the column
  cases e with
  | literal v =>
      change (Instance.checkAssignment c v >>= fun _ => _) = _ at h
      rw [bind_eq_ok] at h
      obtain ⟨_, hcheck, h⟩ := h
      cases h
      exact ⟨fun w hw => by cases hw; exact hcheck, rfl⟩
  | column c =>
      cases h
      exact ⟨fun v hv => (by cases hv), rfl⟩
  | binary l op r =>
      cases h
      exact ⟨fun v hv => (by cases hv), rfl⟩
  | unary op e =>
      cases h
      exact ⟨fun v hv => (by cases hv), rfl⟩

/-- A column that something is assigned to is read with the equals sign. -/
theorem isPhrase_assigned {name : String} (h : isIdentifier name = true) :
    IsPhrase (name ++ "=") [.word name, .mark "="] := by
  have hequals : tokens "=".toList = some [.mark "="] := by decide
  refine ⟨?_, by simp [Token.placeholder?]⟩
  rw [String.toList_append, tokens_append ?_ (tokens_identifier h), hequals]
  · rfl
  · -- a name ends before an equals sign
    intro c hc d hd
    cases hd
    exact adjoins_name_operator (isNameChar_of_mem h c (List.mem_of_mem_getLast? hc))
      (by decide)

/-- An assignment to a column of the entity is read as such. -/
theorem says_assignment {assignment : String × Operand} {t : Template}
    (hq : q.entity.IsRegistered) (ha : ∀ c ∈ assignment.2.columns, c.IsNamed)
    (h : q.assignmentTemplate assignment = .ok t) : t.Says (assignmentPieces assignment) := by
  obtain ⟨name, operand⟩ := assignment
  obtain ⟨c, e, hc, he, -, rfl⟩ := assignmentTemplate_ok h
  have hnamed : ∀ c ∈ e.columns, c.IsNamed := by
    simpa only [Operand.columns, he] using ha
  have hid : isIdentifier name = true :=
    hq.wellFormed.columns.named _ (Schema.mem_columns_of_column hc)
  have hassigned := isPhrase_assigned hid
  refine ⟨Template.readable_text_cons hassigned (e.readable_template hnamed) ?_, ?_⟩
  · -- no token reaches from the equals sign into the expression
    intro bound rest _ c hc d hd
    obtain ⟨d', hd', hapart⟩ := e.opensApart hnamed bound rest
    have hequals : c = '=' := by simpa using hc.symm
    rw [hd'] at hd
    rw [hequals, ← Option.some.inj hd]
    exact hapart
  · rw [Template.pieces_text_cons hassigned.tokens, assignmentPieces]
    simp only [Operand.pieces, he]
    rfl

/-! ## Statements -/

/-- A table behind keywords, with a condition. -/
theorem says_table (hq : q.IsNamed) {s : String} {w : List Token} (hs : IsLead s w) :
    Template.Says (.text (s ++ q.entity.table) :: q.whereTemplate)
      ((w ++ [Token.word q.entity.table]).map .token ++ q.wherePieces) :=
  (Template.says_text (isPhrase_table hq.entity hs)).append (says_where hq.filter)
    q.followsFree_where

/-- What the statements that read rows say before the page. -/
def rowsPieces (q : Query) (columns : List String) : List Piece :=
  q.selectPieces columns
    ++ (.token (.word "FROM") :: .token (.word q.entity.table) :: q.wherePieces)

theorem says_rows {columns : List String} {select : Template} (hq : q.IsNamed)
    (hselect : q.selectTemplate columns = .ok select) :
    Template.Says (select ++ .text (" FROM " ++ q.entity.table) :: q.whereTemplate)
      (q.rowsPieces columns) := by
  have hfrom : IsLead " FROM " [.word "FROM"] := by decide
  refine (says_select hq.entity hselect).append (says_table hq hfrom)
    (Template.followsFree_text ?_ _)
  rw [String.toList_append]
  rfl

/-- **What the statement that reads rows says.** -/
theorem says_fetch {columns : List String} {t : Template} (hq : q.IsNamed)
    (h : q.fetchTemplate columns = .ok t) :
    t.Says (q.rowsPieces columns ++ pagePieces "LIMIT" q.limit
      ++ pagePieces "OFFSET" q.offset) := by
  unfold fetchTemplate at h
  rw [bind_eq_ok] at h
  obtain ⟨select, hselect, h⟩ := h
  cases h
  have hlimit : IsSeparator " LIMIT " [.word "LIMIT"] := by decide
  have hoffset : IsSeparator " OFFSET " [.word "OFFSET"] := by decide
  exact ((says_rows hq hselect).append (says_page hlimit.toIsLead q.limit)
    (followsFree_page hlimit.starts q.limit)).append (says_page hoffset.toIsLead q.offset)
    (followsFree_page hoffset.starts q.offset)

/-- **What the statement that reads the first row says.** -/
theorem says_fetchOne {columns : List String} {t : Template} (hq : q.IsNamed)
    (h : q.fetchOneTemplate columns = .ok t) :
    t.Says (q.rowsPieces columns ++ [.token (.word "LIMIT"), .token (.number 1)]) := by
  unfold fetchOneTemplate at h
  rw [bind_eq_ok] at h
  obtain ⟨_, -, h⟩ := h
  rw [bind_eq_ok] at h
  obtain ⟨select, hselect, h⟩ := h
  cases h
  have hone : IsPhrase " LIMIT 1" [.word "LIMIT", .number 1] := by decide
  exact (says_rows hq hselect).append (Template.says_text hone)
    (Template.followsFree_text (by decide) [])

/-- What the statement that changes rows says. -/
def updatePieces (q : Query) (assignments : List (String × Operand)) : List Piece :=
  [.token (.word "UPDATE"), .token (.word q.entity.table), .token (.word "SET")]
    ++ listed (assignments.map assignmentPieces) ++ q.wherePieces

/-- What an update is rendered from. -/
theorem updateTemplate_ok {assignments : List (String × Operand)} {t : Template}
    (h : q.updateTemplate assignments = .ok t) :
    ∃ sets, assignments.mapM q.assignmentTemplate = .ok sets ∧ sets ≠ []
      ∧ q.isPaged = false
      ∧ t = .text ("UPDATE " ++ q.entity.table ++ " SET ") :: Template.joined "," sets
        ++ q.whereTemplate := by
  unfold updateTemplate rejectPage at h
  rw [bind_eq_ok] at h
  obtain ⟨_, hpage, h⟩ := h
  rw [bind_eq_ok] at h
  obtain ⟨sets, hsets, h⟩ := h
  cases sets with
  | nil => cases h -- an update without assignments is refused
  | cons set sets =>
      cases h
      refine ⟨_, hsets, by simp, ?_, rfl⟩
      cases hp : q.isPaged with
      | false => rfl
      | true => simp [hp] at hpage

theorem isLead_update (hq : q.entity.IsRegistered) :
    IsLead ("UPDATE " ++ q.entity.table ++ " SET ")
      [.word "UPDATE", .word q.entity.table, .word "SET"] := by
  have hupdate : IsLead "UPDATE " [.word "UPDATE"] := by decide
  have hset : tokens " SET ".toList = some [.word "SET"] := by decide
  refine ⟨⟨?_, by simp [Token.placeholder?]⟩, ?_⟩
  · rw [String.toList_append, tokens_append (separated_of_startsFree (by decide))
      (isPhrase_table hq hupdate).tokens, hset]
    rfl
  · rw [String.toList_append]
    exact endsFree_append (by decide) (by decide) _

/-- **What the statement that changes rows says.** -/
theorem says_update {assignments : List (String × Operand)} {t : Template} (hq : q.IsNamed)
    (ha : ∀ a ∈ assignments, ∀ c ∈ a.2.columns, c.IsNamed)
    (h : q.updateTemplate assignments = .ok t) : t.Says (q.updatePieces assignments) := by
  obtain ⟨sets, hsets, -, -, rfl⟩ := updateTemplate_ok h
  have hlist := says_listed hsets fun a hmem t => says_assignment hq.entity (ha a hmem)
  exact (hlist.text_cons (isLead_update hq.entity)).append (says_where hq.filter)
    q.followsFree_where

/-- What the statement that deletes rows says. -/
def deletePieces (q : Query) : List Piece :=
  [.token (.word "DELETE"), .token (.word "FROM"), .token (.word q.entity.table)] ++ q.wherePieces

/-- **What the statement that deletes rows says.** -/
theorem says_delete {t : Template} (hq : q.IsNamed) (h : q.deleteTemplate = .ok t) :
    t.Says q.deletePieces := by
  unfold deleteTemplate at h
  rw [bind_eq_ok] at h
  obtain ⟨_, -, h⟩ := h
  cases h
  have hdelete : IsLead "DELETE FROM " [.word "DELETE", .word "FROM"] := by decide
  exact says_table hq hdelete

/-! ## Storing an instance -/

/-- What the columns and values of a new row say. -/
def rowPieces (values : List (String × Value)) : List Piece :=
  if values.isEmpty then [.token (.word "DEFAULT"), .token (.word "VALUES")]
  else .token (.mark "(") :: listed (values.map fun (n, _) => [.token (.word n)])
    ++ [.token (.mark ")"), .token (.word "VALUES"), .token (.mark "(")]
    ++ listed (values.map fun (_, v) => [.value v]) ++ [.token (.mark ")")]

theorem of_mem_intersperse {α : Type} {s x : α} {as : List α} (h : x ∈ as.intersperse s) :
    x = s ∨ x ∈ as := by
  induction as with
  | nil => simp at h
  | cons a as ih =>
      cases as with
      | nil => exact Or.inr h
      | cons b as =>
          rw [List.intersperse_cons_cons] at h
          rcases List.mem_cons.mp h with rfl | h
          · exact Or.inr (List.mem_cons_self ..)
          · rcases List.mem_cons.mp h with rfl | h
            · exact Or.inl rfl
            · exact (ih h).imp_right (List.mem_cons_of_mem _)

theorem listed_names (values : List (String × Value)) :
    ((values.map fun (n, _) => Token.word n).intersperse (.mark ",")).map Piece.token
      = listed (values.map fun (n, _) => [.token (.word n)]) := by
  induction values with
  | nil => rfl
  | cons p values ih =>
      cases values with
      | nil => rfl
      | cons p' values =>
          simp only [List.map_cons, List.intersperse_cons_cons, listed,
            List.singleton_append] at ih ⊢
          rw [ih]

theorem isLead_rowNames {values : List (String × Value)}
    (h : ∀ p ∈ values, isIdentifier p.1 = true) :
    IsLead (" (" ++ String.intercalate "," (values.map (·.1)) ++ ") VALUES ")
      (.mark "(" :: (values.map fun (n, _) => Token.word n).intersperse (.mark ",")
        ++ [.mark ")", .word "VALUES"]) := by
  have hnames : tokens (String.intercalate "," (values.map (·.1))).toList = _ :=
    tokens_names (by simpa using h)
  have hopen : tokens " (".toList = some [.mark "("] := by decide
  have hclose : tokens ") VALUES ".toList = some [.mark ")", .word "VALUES"] := by decide
  have hseam : StartsFree ") VALUES ".toList := by decide
  have hend : EndsFree " (".toList := by decide
  refine ⟨⟨?_, fun x hx => ?_⟩, ?_⟩
  · -- the names stand between two seams
    rw [String.toList_append, String.toList_append, List.append_assoc,
      tokens_append (separated_of_endsFree hend) hopen,
      tokens_append (separated_of_startsFree hseam) hnames, hclose]
    simp [List.map_map, Function.comp_def]
  · have hclosing : ∀ x ∈ [Token.mark ")", Token.word "VALUES"], x.placeholder? = none := by
      decide
    rcases List.mem_append.mp hx with hx | hx
    · rcases List.mem_cons.mp hx with rfl | hx
      · rfl
      · rcases of_mem_intersperse hx with rfl | hx
        · rfl
        · obtain ⟨p, -, rfl⟩ := List.mem_map.mp hx
          rfl
    · exact hclosing x hx
  · rw [String.toList_append]
    exact endsFree_append (by decide) (by decide) _

theorem says_row {values : List (String × Value)} (h : ∀ p ∈ values, isIdentifier p.1 = true) :
    Template.Says (rowTemplate values) (rowPieces values) := by
  unfold rowTemplate rowPieces
  split
  · have hdefault : IsPhrase " DEFAULT VALUES" [.word "DEFAULT", .word "VALUES"] := by decide
    exact Template.says_text hdefault
  · have hvalues : Template.Says (Template.joined "," (values.map fun (_, v) => [.value v]))
        (listed ((values.map fun (_, v) => [.value v]).map Template.pieces)) := by
      refine Template.says_joined fun t ht => ?_
      obtain ⟨p, -, rfl⟩ := List.mem_map.mp ht
      exact Template.readable_value _
    have hpieces : (values.map fun (_, v) => [Fragment.value v]).map Template.pieces
        = values.map fun (_, v) => [.value v] := by
      rw [List.map_map]
      rfl
    rw [hpieces] at hvalues
    have hsaid := hvalues.parenthesized.text_cons (isLead_rowNames h)
    simpa [← listed_names] using hsaid

theorem followsFree_row (values : List (String × Value)) :
    Template.FollowsFree (rowTemplate values) := by
  unfold rowTemplate
  split
  · exact Template.followsFree_text (by decide) _
  · refine Template.followsFree_text ?_ _
    rw [String.toList_append, String.toList_append]
    rfl

/-- What the statement that stores an instance says. -/
def insertPieces (q : Query) (i : Instance) : List Piece :=
  [.token (.word "INSERT"), .token (.word "INTO"), .token (.word q.entity.table)]
    ++ rowPieces i.values
    ++ (if q.returnsGenerated i then [.token (.word "RETURNING"), .token (.mark "*")] else [])

/-- What the statement that stores an instance is rendered from. -/
theorem insertTemplate_ok {i : Instance} {t : Template} (h : q.insertTemplate i = .ok t) :
    q.entity.same i.entity = true
      ∧ t = .text ("INSERT INTO " ++ q.entity.table) :: rowTemplate i.values ++
        (if q.returnsGenerated i then [.text " RETURNING *"] else []) := by
  unfold insertTemplate at h
  split at h
  · rename_i hsame
    exact ⟨hsame, (Except.ok.inj h).symm⟩
  · cases h

/-- **What the statement that stores an instance says.** -/
theorem says_insert {i : Instance} {t : Template} (hq : q.entity.IsRegistered)
    (hi : i.entity.IsRegistered) (h : q.insertTemplate i = .ok t) : t.Says (q.insertPieces i) := by
  obtain ⟨-, rfl⟩ := insertTemplate_ok h
  have hinsert : IsLead "INSERT INTO " [.word "INSERT", .word "INTO"] := by decide
  have hreturning : IsPhrase " RETURNING *" [.word "RETURNING", .mark "*"] := by decide
  have hhead := (Template.says_text (isPhrase_table hq hinsert)).append
    (says_row hi.isIdentifier_values) (followsFree_row _)
  unfold insertPieces
  split
  · exact hhead.append (Template.says_text hreturning) (Template.followsFree_text (by decide) [])
  · exact hhead.append Template.says_nil Template.followsFree_nil

end Query

/-! ## All statements -/

/-- What a query can be asked to render. -/
inductive Request where
  | fetch (columns : List String)
  | fetchOne (columns : List String)
  | update (assignments : List (String × Operand))
  | delete
  | insert (i : Instance)

namespace Request

variable {q : Query} {r : Request}

/-- The statement that the query renders. -/
def statement (q : Query) : Request → Except Error Statement
  | fetch columns => q.fetchStatement columns
  | fetchOne columns => q.fetchOneStatement columns
  | update assignments => q.updateStatement assignments
  | delete => q.deleteStatement
  | insert i => q.insertStatement i

/-- The template that the statement is made of. -/
def template (q : Query) : Request → Except Error Template
  | fetch columns => q.fetchTemplate columns
  | fetchOne columns => q.fetchOneTemplate columns
  | update assignments => q.updateTemplate assignments
  | delete => q.deleteTemplate
  | insert i => q.insertTemplate i

theorem statement_eq (q : Query) (r : Request) :
    r.statement q = (r.template q).map Template.statement := by
  cases r with
  | fetch columns => exact q.fetchStatement_eq columns
  | fetchOne columns => exact q.fetchOneStatement_eq columns
  | update assignments => exact q.updateStatement_eq assignments
  | delete => exact q.deleteStatement_eq
  | insert i => exact q.insertStatement_eq i

theorem statement_eq_ok {s : Statement} (h : r.statement q = .ok s) :
    ∃ t, r.template q = .ok t ∧ s = t.statement := by
  rw [statement_eq] at h
  obtain ⟨t, ht, rfl⟩ := map_eq_ok.mp h
  exact ⟨t, ht, rfl⟩

/-- The entities whose names go into the statement. -/
def entities (q : Query) : Request → List Entity
  | insert i => [q.entity, i.entity]
  | _ => [q.entity]

/-- The columns of the expressions that go into the statement. -/
def columns (q : Query) : Request → List ColumnRef
  | update assignments => assignments.flatMap (·.2.columns) ++ q.filterColumns
  | insert _ => []
  | _ => q.filterColumns

/-- Whether all names that go into the statement are identifiers: those of columns in expressions,
and those of entities because they are registered. -/
structure IsNamed (q : Query) (r : Request) : Prop where
  entities : ∀ e ∈ r.entities q, e.IsRegistered
  columns : ∀ c ∈ r.columns q, c.IsNamed

/-- What the statement says. -/
def pieces (q : Query) : Request → List Piece
  | fetch columns => q.rowsPieces columns ++ Query.pagePieces "LIMIT" q.limit
    ++ Query.pagePieces "OFFSET" q.offset
  | fetchOne columns => q.rowsPieces columns ++ [.token (.word "LIMIT"), .token (.number 1)]
  | update assignments => q.updatePieces assignments
  | delete => q.deletePieces
  | insert i => q.insertPieces i

/-- **Every statement is read as what was asked for.** -/
theorem says_template {t : Template} (hr : r.IsNamed q) (h : r.template q = .ok t) :
    t.Says (r.pieces q) := by
  have hq : q.entity.IsRegistered := hr.entities _ (by cases r <;> simp [entities])
  cases r with
  | fetch columns => exact Query.says_fetch ⟨hq, hr.columns⟩ h
  | fetchOne columns => exact Query.says_fetchOne ⟨hq, hr.columns⟩ h
  | update assignments =>
      have hcolumns := List.forall_mem_append.mp hr.columns
      refine Query.says_update ⟨hq, hcolumns.2⟩ (fun a ha c hc => ?_) h
      exact hcolumns.1 c (List.mem_flatMap.mpr ⟨a, ha, hc⟩)
  | delete => exact Query.says_delete ⟨hq, hr.columns⟩ h
  | insert i => exact Query.says_insert hq (hr.entities i.entity (by simp [entities])) h

end Request

end EntityMapper
