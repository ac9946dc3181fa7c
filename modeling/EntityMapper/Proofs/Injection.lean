import EntityMapper.Proofs.Outline

/-!
# No value reaches the text

Two requests that differ in values only are rendered to the same text, whatever the values hold.
What is in the text comes from operators, which are fixed, and from names; and where all names were
checked by registration, no character of the text can end a string, a quoted name or a statement,
and no two can begin a comment. Values travel as parameters only.
-/

namespace EntityMapper

open Sql

/-! ## Harmless characters -/

namespace Sql

/-- Whether a character can end a string, a quoted name or a statement. -/
def isBreakout (c : Char) : Bool := c == '\'' || c == '"' || c == '\\' || c == ';'

/-- Whether no character breaks out and a blank follows every minus sign and every slash, so that no
comment begins. -/
def Harmless : List Char → Prop
  | [] => True
  | c :: rest => isBreakout c = false ∧ (c = '-' ∨ c = '/' → rest.head? = some ' ') ∧ Harmless rest

instance decidableHarmless : (cs : List Char) → Decidable (Harmless cs)
  | [] => inferInstanceAs (Decidable True)
  | c :: rest =>
    have := decidableHarmless rest
    inferInstanceAs (Decidable (isBreakout c = false
      ∧ (c = '-' ∨ c = '/' → rest.head? = some ' ') ∧ Harmless rest))

theorem harmless_append {a b : List Char} (ha : Harmless a) (hb : Harmless b) :
    Harmless (a ++ b) := by
  induction a with
  | nil => exact hb
  | cons c a ih =>
      obtain ⟨hc, hblank, hrest⟩ := ha
      refine ⟨hc, fun h => ?_, ih hrest⟩
      -- the blank after a sign is in the first text already
      change (a ++ b).head? = some ' '
      rw [List.head?_append, hblank h]
      rfl

/-- Names and numbers are harmless. -/
theorem harmless_of_isNameChar {cs : List Char} (h : ∀ c ∈ cs, isNameChar c = true) :
    Harmless cs := by
  induction cs with
  | nil => trivial
  | cons c cs ih =>
      have hc := h c (List.mem_cons_self ..)
      have hne : ∀ d, isNameChar d = false → c ≠ d := fun d hd heq => by
        rw [heq, hd] at hc
        cases hc
      refine ⟨?_, ?_, ih fun d hd => h d (List.mem_cons_of_mem _ hd)⟩
      · simp [isBreakout, hne '\'' (by decide), hne '"' (by decide), hne '\\' (by decide),
          hne ';' (by decide)]
      · rintro (rfl | rfl)
        · exact absurd rfl (hne '-' (by decide))
        · exact absurd rfl (hne '/' (by decide))

theorem isBreakout_of_mem {cs : List Char} (h : Harmless cs) : ∀ c ∈ cs, isBreakout c = false := by
  induction cs with
  | nil => simp
  | cons c cs ih => exact List.forall_mem_cons.mpr ⟨h.1, ih h.2.2⟩

/-- What follows a minus sign or a slash is a blank. -/
theorem Harmless.not_infix {cs : List Char} (h : Harmless cs) {c d : Char} (hc : c = '-' ∨ c = '/')
    (hd : d ≠ ' ') : ¬ [c, d] <:+: cs := by
  rintro ⟨before, after, rfl⟩
  induction before with
  | nil => exact hd (Option.some.inj (h.2.1 hc))
  | cons b before ih => exact ih h.2.2

/-- Whether all texts of a template are harmless. -/
def Template.Harmless (t : Template) : Prop := ∀ s, Fragment.text s ∈ t → Sql.Harmless s.toList

namespace Template

theorem harmless_append {t u : Template} (ht : t.Harmless) (hu : u.Harmless) :
    Harmless (t ++ u) := fun s h =>
  (List.mem_append.mp h).elim (ht s) (hu s)

theorem harmless_text_cons {s : String} {t : Template} (hs : Sql.Harmless s.toList)
    (ht : t.Harmless) : Harmless (.text s :: t) := by
  intro s' h
  rcases List.mem_cons.mp h with h | h
  · exact (Fragment.text.inj h) ▸ hs
  · exact ht s' h

theorem harmless_nil : Harmless [] := fun _ h => by cases h

theorem harmless_value (v : Value) : Harmless [.value v] := fun s h => by
  cases List.mem_singleton.mp h

theorem harmless_parenthesized {t : Template} (ht : t.Harmless) : t.parenthesized.Harmless :=
  harmless_append (harmless_text_cons (by decide) ht) (harmless_text_cons (by decide) harmless_nil)

theorem harmless_joined {separator : String} (hs : Sql.Harmless separator.toList)
    {parts : List Template} (h : ∀ t ∈ parts, t.Harmless) : (joined separator parts).Harmless := by
  induction parts with
  | nil => exact harmless_nil
  | cons t parts ih =>
      have ht := h t (List.mem_cons_self ..)
      have hrest := ih fun u hu => h u (List.mem_cons_of_mem _ hu)
      cases parts with
      | nil => exact ht
      | cons u parts => exact harmless_append ht (harmless_text_cons hs hrest)

theorem harmless_bracketed {t : Template} (h : t.Harmless) (wraps : Bool) :
    Harmless (Expr.bracketed wraps t) := by
  cases wraps
  · exact h
  · exact harmless_parenthesized h

theorem harmless_values {separator : String} (hs : Sql.Harmless separator.toList)
    (vs : List Value) : Harmless (joined separator (vs.map fun v => [.value v])) := by
  refine harmless_joined hs fun t ht => ?_
  obtain ⟨v, -, rfl⟩ := List.mem_map.mp ht
  exact harmless_value v

/-- **The text of a harmless template is harmless.** -/
theorem harmless_chars {t : Template} (h : t.Harmless) (bound : Nat) :
    Sql.Harmless (t.chars bound) := by
  induction t generalizing bound with
  | nil => trivial
  | cons f t ih =>
      have hrest := ih fun s hs => h s (List.mem_cons_of_mem _ hs)
      cases f with
      | text s => exact Sql.harmless_append (h s (List.mem_cons_self ..)) (hrest _)
      | value v =>
          -- all that is written of a value is its placeholder
          exact Sql.harmless_append (harmless_of_isNameChar fun _ => isNameChar_of_mem_placeholder)
            (hrest _)

end Template

end Sql

/-! ## Harmless statements -/

theorem harmless_toList_append {a b : String} (ha : Harmless a.toList) (hb : Harmless b.toList) :
    Harmless (a ++ b).toList := by
  rw [String.toList_append]
  exact Sql.harmless_append ha hb

theorem harmless_of_isIdentifier {s : String} (h : isIdentifier s = true) :
    Harmless s.toList := by
  exact harmless_of_isNameChar (isNameChar_of_mem h)

/-- **An expression over named columns is harmless.** -/
theorem Expr.harmless_template (e : Expr) (h : ∀ c ∈ e.columns, c.IsNamed) :
    e.template.Harmless := by
  fun_induction Expr.template e with
  | case1 c =>
      obtain ⟨ht, hn⟩ := h c (by simp [columns])
      exact Template.harmless_text_cons (harmless_toList_append (harmless_toList_append
        (harmless_of_isIdentifier ht) (by decide)) (harmless_of_isIdentifier hn))
        Template.harmless_nil
  | case2 v => exact Template.harmless_value v
  | case3 left items hnil => exact Template.harmless_text_cons (by decide) Template.harmless_nil
  | case4 left items hne ih =>
      have hleft := Template.harmless_bracketed (ih fun c hc => h c (by simp [columns, hc]))
      exact Template.harmless_append (hleft _) (Template.harmless_text_cons (by decide)
        (Template.harmless_parenthesized (Template.harmless_values (by decide) _)))
  | case5 left right hlist ih₁ ih₂ =>
      have hleft := Template.harmless_bracketed (ih₁ fun c hc => h c (by simp [columns, hc]))
      have hright := ih₂ fun c hc => h c (by simp [columns, hc])
      exact Template.harmless_append (hleft _) (Template.harmless_text_cons (by decide)
        (Template.harmless_parenthesized hright))
  | case6 left op right hlist hop ih₁ ih₂ =>
      have hleft := Template.harmless_bracketed (ih₁ fun c hc => h c (by simp [columns, hc]))
      have hright := Template.harmless_bracketed (ih₂ fun c hc => h c (by simp [columns, hc]))
      have hsymbol : Harmless (" " ++ op.symbol ++ " ").toList := by cases op <;> decide
      exact Template.harmless_bracketed (Template.harmless_append (hleft _)
        (Template.harmless_text_cons hsymbol (hright _))) _
  | case7 op operand ih =>
      have hoperand :=
        Template.harmless_bracketed (ih fun c hc => h c (by simpa [columns] using hc))
      have hsymbol : Harmless (op.symbol ++ " ").toList := by cases op <;> decide
      exact Template.harmless_text_cons hsymbol (hoperand _)

namespace Query

variable {q : Query}

theorem harmless_where (h : ∀ c ∈ q.filterColumns, c.IsNamed) : q.whereTemplate.Harmless := by
  unfold filterColumns at h
  unfold whereTemplate
  cases hf : q.filter with
  | none => exact Template.harmless_nil
  | some e =>
      rw [hf] at h
      exact Template.harmless_text_cons (by decide) (e.harmless_template h)

theorem harmless_page {clause : String} (hs : Harmless clause.toList) (n : Option Int64) :
    Template.Harmless (pageClause clause n) := by
  unfold pageClause
  split
  · split
    · exact Template.harmless_nil
    · exact Template.harmless_text_cons hs (Template.harmless_value _)
  · exact Template.harmless_nil

theorem harmless_select {columns : List String} {t : Template} (hq : q.entity.IsRegistered)
    (h : q.selectTemplate columns = .ok t) : t.Harmless := by
  unfold selectTemplate at h
  split at h
  · cases h
    exact Template.harmless_text_cons (by decide) Template.harmless_nil
  · rw [bind_eq_ok] at h
    obtain ⟨rendered, hrendered, h⟩ := h
    cases h
    refine Template.harmless_text_cons (by decide)
      (Template.harmless_joined (by decide) fun t ht => ?_)
    obtain ⟨name, -, hname⟩ := mapM_ok_mem hrendered t ht
    rw [bind_eq_ok] at hname
    obtain ⟨c, hc, hname⟩ := hname
    rw [hq.wellFormed.toExpr hc] at hname
    cases hname
    refine Expr.harmless_template _ fun c' hc' => ?_
    rw [List.mem_singleton.mp hc']
    exact hq.wellFormed.isNamed hc

/-- Names with commas between them are harmless. -/
theorem harmless_names {names : List String} (h : ∀ n ∈ names, isIdentifier n = true) :
    Harmless (String.intercalate "," names).toList := by
  induction names with
  | nil => trivial
  | cons n names ih =>
      have hn := harmless_of_isIdentifier (h n (List.mem_cons_self ..))
      have hrest := ih fun m hm => h m (List.mem_cons_of_mem _ hm)
      cases names with
      | nil => simpa using hn
      | cons m names =>
          rw [String.intercalate_cons_cons]
          exact harmless_toList_append (harmless_toList_append hn (by decide)) hrest

theorem harmless_row {values : List (String × Value)} (h : ∀ p ∈ values, isIdentifier p.1 = true) :
    Template.Harmless (rowTemplate values) := by
  unfold rowTemplate
  split
  · exact Template.harmless_text_cons (by decide) Template.harmless_nil
  · have hnames : Harmless (String.intercalate "," (values.map (·.1))).toList :=
      harmless_names (by simpa using h)
    have hvalues : Template.Harmless
        (Template.joined "," ((values.map (·.2)).map fun v => [.value v])) :=
      Template.harmless_values (by decide) _
    rw [List.map_map] at hvalues
    exact Template.harmless_text_cons (harmless_toList_append (harmless_toList_append (by decide)
      hnames) (by decide)) (Template.harmless_parenthesized hvalues)

end Query

namespace Request

variable {q : Query} {r : Request}

/-- **Every statement over checked names is harmless.** -/
theorem harmless_template {t : Template} (hr : r.IsNamed q) (h : r.template q = .ok t) :
    t.Harmless := by
  have hq : q.entity.IsRegistered := hr.entities _ (by cases r <;> simp [entities])
  have htable : ∀ {s : String}, Harmless s.toList → Harmless (s ++ q.entity.table).toList :=
    fun hs => harmless_toList_append hs (harmless_of_isIdentifier hq.wellFormed.table)
  cases r with
  | fetch columns =>
      simp only [template, Query.fetchTemplate, bind_eq_ok] at h
      obtain ⟨select, hselect, h⟩ := h
      cases h
      exact Template.harmless_append (Template.harmless_append (Template.harmless_append
        (Query.harmless_select hq hselect) (Template.harmless_text_cons (htable (by decide))
          (Query.harmless_where hr.columns))) (Query.harmless_page (by decide) _))
        (Query.harmless_page (by decide) _)
  | fetchOne columns =>
      simp only [template, Query.fetchOneTemplate, bind_eq_ok] at h
      obtain ⟨_, -, select, hselect, h⟩ := h
      cases h
      exact Template.harmless_append (Template.harmless_append (Query.harmless_select hq hselect)
        (Template.harmless_text_cons (htable (by decide)) (Query.harmless_where hr.columns)))
        (Template.harmless_text_cons (by decide) Template.harmless_nil)
  | update assignments =>
      obtain ⟨sets, hsets, -, -, rfl⟩ := Query.updateTemplate_ok h
      have hcolumns := List.forall_mem_append.mp hr.columns
      refine Template.harmless_append (Template.harmless_text_cons
        (harmless_toList_append (htable (by decide)) (by decide))
        (Template.harmless_joined (by decide) fun t ht => ?_)) (Query.harmless_where hcolumns.2)
      obtain ⟨⟨name, operand⟩, hmem, ht⟩ := mapM_ok_mem hsets t ht
      -- what is assigned to is a column of the entity
      obtain ⟨c, e, hc, he, -, rfl⟩ := Query.assignmentTemplate_ok ht
      have hname : isIdentifier name = true :=
        hq.wellFormed.columns.named _ (Schema.mem_columns_of_column hc)
      refine Template.harmless_text_cons
        (harmless_toList_append (harmless_of_isIdentifier hname) (by decide))
        (e.harmless_template fun c hc => hcolumns.1 c (List.mem_flatMap.mpr ⟨_, hmem, ?_⟩))
      simpa only [Operand.columns, he] using hc
  | delete =>
      simp only [template, Query.deleteTemplate, bind_eq_ok] at h
      obtain ⟨_, -, h⟩ := h
      cases h
      exact Template.harmless_text_cons (htable (by decide)) (Query.harmless_where hr.columns)
  | insert i =>
      obtain ⟨-, rfl⟩ := Query.insertTemplate_ok h
      have hi : i.entity.IsRegistered := hr.entities _ (by simp [entities])
      refine Template.harmless_append (Template.harmless_text_cons (htable (by decide))
        (Query.harmless_row hi.isIdentifier_values)) ?_
      split
      · exact Template.harmless_text_cons (by decide) Template.harmless_nil
      · exact Template.harmless_nil

end Request

/-- Whether a column belongs to a registered entity. -/
def ColumnRef.IsRegistered (c : ColumnRef) : Prop :=
  ∃ (e : Entity) (name : String) (column : Column), e.IsRegistered
    ∧ e.schema.column name = .ok column ∧ column.toRef = .ok c

theorem ColumnRef.IsRegistered.isNamed {c : ColumnRef} (h : c.IsRegistered) : c.IsNamed := by
  obtain ⟨e, name, column, he, hcolumn, hc⟩ := h
  have hexpr := he.wellFormed.toExpr hcolumn
  rw [Column.toExpr, hc] at hexpr
  cases hexpr
  exact he.wellFormed.isNamed hcolumn

namespace Request

/-- **Values stay out of the text.**

Two requests that differ in values only give one text. If all names come from registered entities,
nothing in it can end a string, a quoted name or a statement or begin a comment. -/
theorem values_stay_out_of_text {q q' : Query} {r r' : Request} {s s' : Statement}
    (hq : q.SameShape q') (hr : r.SameShape r') (h : r.statement q = .ok s)
    (h' : r'.statement q' = .ok s') :
    s.sql = s'.sql ∧
      ((∀ e ∈ r.entities q, e.IsRegistered) → (∀ c ∈ r.columns q, c.IsRegistered) →
        (∀ c ∈ s.sql.toList, c ≠ '\'' ∧ c ≠ '"' ∧ c ≠ '\\' ∧ c ≠ ';')
          ∧ ¬ ['-', '-'] <:+: s.sql.toList ∧ ¬ ['/', '*'] <:+: s.sql.toList) := by
  refine ⟨text_eq hq hr h h', fun he hc => ?_⟩
  -- the texts are one, so one of them is enough
  obtain ⟨t, ht, rfl⟩ := statement_eq_ok h
  have hnamed : r.IsNamed q := ⟨he, fun c hmem => (hc c hmem).isNamed⟩
  have hchars : t.statement.sql.toList = t.chars 0 := String.toList_ofList
  have hharmless := Template.harmless_chars (harmless_template hnamed ht) 0
  rw [hchars]
  refine ⟨fun c hc => ?_, hharmless.not_infix (Or.inl rfl) (by decide),
    hharmless.not_infix (Or.inr rfl) (by decide)⟩
  have hbreakout := isBreakout_of_mem hharmless c hc
  simpa [isBreakout, and_assoc] using hbreakout

/-- A condition with a hostile text and one with NULL. -/
theorem values_stay_out_of_text_delete :
    let score : ColumnRef := ⟨"tasks", "score", .scalar .integer⟩
    let q := fun v =>
      Entity.tasks.all.filtered (.binary (.column score) .isIn (.literal (.array [v])))
    ∃ s s', Request.delete.statement (q (.text "0); DROP TABLE tasks --")) = .ok s
      ∧ Request.delete.statement (q .null) = .ok s'
      ∧ s.sql = s'.sql
      ∧ s.sql = "DELETE FROM tasks WHERE tasks.score IN ($1)"
      ∧ ¬ ['-', '-'] <:+: s.sql.toList := by
  intro score q
  have hq : (q (.text "0); DROP TABLE tasks --")).SameShape (q .null) :=
    ⟨rfl, .binary (.column score) (.literal _ _) fun _ => rfl, Iff.rfl, Iff.rfl⟩
  have hentity : ∀ e ∈ Request.delete.entities (q .null), e.IsRegistered := by
    intro e he
    rw [List.mem_singleton.mp he]
    exact Entity.tasks_isRegistered
  have hcolumn : ∀ c ∈ Request.delete.columns (q .null), c.IsRegistered := by
    intro c hc
    rw [List.mem_singleton.mp hc]
    exact ⟨Entity.tasks, "score", _, Entity.tasks_isRegistered, rfl, rfl⟩
  have hdelete : Request.delete.SameShape Request.delete := trivial
  refine ⟨_, _, rfl, rfl, ?_, by decide, ?_⟩
  · exact (values_stay_out_of_text hq hdelete rfl rfl).1
  · exact ((values_stay_out_of_text hq hdelete rfl rfl).2 hentity hcolumn).2.1

end Request

end EntityMapper
