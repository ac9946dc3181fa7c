import EntityMapper.Proofs.Acceptance
import EntityMapper.Proofs.Saving

/-!
# What a column can be given

A value comes to a column in three ways: it is set on an instance, an update assigns it, or the
column is declared with it as the default. Each way makes its own checks, in its own order.
`Schema.Permits` says once what a column can be given, and `Schema.Refuses` which error there is if
it cannot; `write_paths_agree` says that all three ways follow them.
-/

namespace EntityMapper

/-! ## Errors -/

section

variable {ε α β : Type} {x : Except ε α} {err : ε}

theorem exists_ok_iff : (∃ a, x = .ok a) ↔ ∀ err, x ≠ .error err := by
  cases x <;> simp

theorem bind_eq_error {f : α → Except ε β} :
    x >>= f = .error err ↔ x = .error err ∨ ∃ a, x = .ok a ∧ f a = .error err := by
  cases x <;> simp [bind, Except.bind]

theorem map_eq_error {f : α → β} : x.map f = .error err ↔ x = .error err := by
  cases x <;> simp [Except.map]

theorem mapM_singleton {f : α → Except ε β} (a : α) : [a].mapM f = (f a).map ([·]) := by
  rw [List.mapM_cons, List.mapM_nil]
  cases f a <;> rfl

end

/-! ## The rule -/

namespace Schema

/-- Whether there is a column of a name that takes a value. -/
def Permits (s : Schema) (name : String) (v : Value) : Prop :=
  ∃ c, s.column? name = some c ∧ c.type.accepts v = true ∧ c.passes v = true

/-- What is wrong with a value for a column: the name first, then the type, then the check. -/
inductive Refuses (s : Schema) (name : String) (v : Value) : Error → Prop where
  | unknown (hc : s.column? name = none) : Refuses s name v (.unknownColumn s.name name)
  | mismatch {c : Column} (hc : s.column? name = some c) (haccepts : c.type.accepts v = false) :
      Refuses s name v (.typeMismatch c.type.name v.kindName)
  | rejected {c : Column} (hc : s.column? name = some c) (haccepts : c.type.accepts v = true)
      (hpasses : c.passes v = false) : Refuses s name v (c.rejected v)

variable {s : Schema} {name : String} {v : Value} {c : Column} {err : Error}

/-- A value is permitted exactly if nothing is wrong with it. -/
theorem permits_iff : s.Permits name v ↔ ∀ err, ¬ s.Refuses name v err := by
  constructor
  · rintro ⟨c, hc, haccepts, hpasses⟩ err hrefuses
    cases hrefuses with
    | unknown hnone => rw [hc] at hnone; cases hnone
    | mismatch hc' hmismatch =>
        rw [hc] at hc'
        cases hc'
        rw [haccepts] at hmismatch
        cases hmismatch
    | rejected hc' _ hrejected =>
        rw [hc] at hc'
        cases hc'
        rw [hpasses] at hrejected
        cases hrejected
  · intro h
    cases hc : s.column? name with
    | none => exact absurd (.unknown hc) (h _)
    | some c =>
        by_cases haccepts : c.type.accepts v = true
        · by_cases hpasses : c.passes v = true
          · exact ⟨c, hc, haccepts, hpasses⟩
          · exact absurd (.rejected hc haccepts (Bool.eq_false_iff.mpr hpasses)) (h _)
        · exact absurd (.mismatch hc (Bool.eq_false_iff.mpr haccepts)) (h _)

theorem column_eq_ok : s.column name = .ok c ↔ s.column? name = some c := by
  unfold column
  cases s.column? name <;> simp

theorem column_eq_error :
    s.column name = .error err ↔ s.column? name = none ∧ err = .unknownColumn s.name name := by
  unfold column
  cases s.column? name <;> simp [eq_comm]

/-- A column that is found has a position. -/
theorem exists_index?_of_column? (h : s.column? name = some c) : ∃ k, s.index? name = some k := by
  obtain ⟨k, hk, -⟩ := Option.bind_eq_some_iff.mp h
  exact ⟨k, hk⟩

end Schema

theorem Instance.checkAssignment_eq_error {c : Column} {v : Value} {err : Error} :
    checkAssignment c v = .error err ↔
      (c.type.accepts v = false ∧ err = .typeMismatch c.type.name v.kindName) ∨
        (c.type.accepts v = true ∧ c.passes v = false ∧ err = c.rejected v) := by
  rw [checkAssignment, Column.validate]
  cases c.type.accepts v <;> cases c.passes v <;> simp [eq_comm]

/-- The name is looked up and the value checked: whatever the rest is, this is the rule. -/
theorem Schema.column_bind_checkAssignment_eq_error {s : Schema} {name : String} {v : Value}
    {err : Error} {α : Type} {f : Column → Except Error α}
    (hf : ∀ c, s.column? name = some c →
      (f c = .error err ↔ Instance.checkAssignment c v = .error err)) :
    s.column name >>= f = .error err ↔ s.Refuses name v err := by
  rw [bind_eq_error]
  constructor
  · rintro (h | ⟨c, hc, h⟩)
    · obtain ⟨hnone, rfl⟩ := column_eq_error.mp h
      exact .unknown hnone
    · rw [column_eq_ok] at hc
      rcases Instance.checkAssignment_eq_error.mp ((hf c hc).mp h) with
        ⟨haccepts, rfl⟩ | ⟨haccepts, hpasses, rfl⟩
      · exact .mismatch hc haccepts
      · exact .rejected hc haccepts hpasses
  · intro h
    cases h with
    | unknown hnone => exact .inl (column_eq_error.mpr ⟨hnone, rfl⟩)
    | mismatch hc haccepts =>
        have hcheck := Instance.checkAssignment_eq_error.mpr (.inl ⟨haccepts, rfl⟩)
        exact .inr ⟨_, column_eq_ok.mpr hc, (hf _ hc).mpr hcheck⟩
    | rejected hc haccepts hpasses =>
        have hcheck := Instance.checkAssignment_eq_error.mpr (.inr ⟨haccepts, hpasses, rfl⟩)
        exact .inr ⟨_, column_eq_ok.mpr hc, (hf _ hc).mpr hcheck⟩

variable {shape : Shape} {i : Instance} {q : Query} {name : String} {v : Value} {err : Error}

/-! ## Instances -/

/-- **Setting a column fails as the rule says.** -/
theorem Instance.set_eq_error : i.set name v = .error err ↔ i.schema.Refuses name v err := by
  unfold Instance.set
  refine Schema.column_bind_checkAssignment_eq_error fun c hc => ?_
  -- a column that was found is found again
  obtain ⟨k, hk⟩ := Schema.exists_index?_of_column? hc
  have hindex : i.index name = .ok k := by rw [index, hk]
  rw [bind_eq_error, hindex]
  constructor
  · rintro (h | ⟨_, -, h⟩)
    · exact h
    · cases h
  · exact .inl

theorem Instance.exists_set : (∃ j, i.set name v = .ok j) ↔ i.schema.Permits name v := by
  rw [exists_ok_iff, Schema.permits_iff]
  exact forall_congr' fun _ => not_congr set_eq_error

/-! ## Updates -/

namespace Query

variable {operand : Operand}

theorem assignmentTemplate_eq_error (ho : operand.toExpr = .ok (.literal v)) :
    q.assignmentTemplate (name, operand) = .error err ↔ q.entity.schema.Refuses name v err := by
  unfold assignmentTemplate
  refine Schema.column_bind_checkAssignment_eq_error fun c _ => ?_
  rw [ho]
  change (Instance.checkAssignment c v >>= fun _ => _) = .error err ↔ _
  rw [bind_eq_error]
  constructor
  · rintro (h | ⟨_, -, h⟩)
    · exact h
    · cases h
  · exact .inl

/-- **An update with one assignment fails as the rule says.** -/
theorem updateStatement_eq_error (hpage : q.isPaged = false)
    (ho : operand.toExpr = .ok (.literal v)) :
    q.updateStatement [(name, operand)] = .error err ↔ q.entity.schema.Refuses name v err := by
  rw [updateStatement_eq, map_eq_error, ← assignmentTemplate_eq_error ho, updateTemplate,
    rejectPage, hpage, mapM_singleton]
  change (q.assignmentTemplate (name, operand)).map ([·]) >>= _ = .error err ↔ _
  rw [bind_eq_error, map_eq_error]
  constructor
  · rintro (h | ⟨sets, hsets, h⟩)
    · exact h
    · -- there is something to assign
      obtain ⟨t, -, rfl⟩ := map_eq_ok.mp hsets
      cases h
  · exact .inl

end Query

/-! ## Defaults -/

namespace Shape

/-- The shape with another default for the column of a name. -/
def withDefault (shape : Shape) (name : String) (v : Value) : Shape :=
  { shape with
    columns := shape.columns.map fun d =>
      (d.1, if d.1 = name then d.2.withDefault v else d.2) }

theorem names_withDefault : (shape.withDefault name v).names = shape.names := by
  rw [names, withDefault, List.map_map]
  rfl

theorem length_flagged_withDefault :
    (shape.withDefault name v).flagged.length = shape.flagged.length := by
  have hflag : ∀ d : String × Column,
      (if d.1 = name then d.2.withDefault v else d.2).isIdentity = d.2.isIdentity := by
    intro d
    split <;> rfl
  rw [flagged, withDefault, List.filter_map, List.length_map]
  simp only [Function.comp_def, hflag]
  rfl

theorem acceptsDefault_withDefault {c : Column} :
    (c.withDefault v).AcceptsDefault ↔ c.type.accepts v = true ∧ c.passes v = true := by
  simp only [Column.AcceptsDefault, Column.withDefault, Option.mem_some_iff, forall_eq']
  rfl

/-- With another default a shape is acceptable if the column of that name takes it. -/
theorem isAcceptable_withDefault (h : shape.IsAcceptable) :
    (shape.withDefault name v).IsAcceptable ↔
      ∀ c, (name, c) ∈ shape.columns → c.type.accepts v = true ∧ c.passes v = true := by
  constructor
  · intro hdefault c hc
    have hmem : (name, c.withDefault v) ∈ (shape.withDefault name v).columns :=
      List.mem_map.mpr ⟨_, hc, by simp⟩
    exact acceptsDefault_withDefault.mp (hdefault.defaults _ hmem)
  · intro htakes
    refine ⟨h.table, ?_, ?_, ?_, ?_⟩
    · intro d hd
      obtain ⟨d', hd', rfl⟩ := List.mem_map.mp hd
      exact h.plain d' hd'
    · rw [names_withDefault]
      exact h.distinct
    · intro d hd
      obtain ⟨⟨n, c⟩, hc, rfl⟩ := List.mem_map.mp hd
      by_cases hn : n = name
      · subst hn
        rw [if_pos rfl]
        exact acceptsDefault_withDefault.mpr (htakes c hc)
      · rw [if_neg hn]
        exact h.defaults (n, c) hc
    · have hidentity := h.identity
      rw [names_withDefault, length_flagged_withDefault]
      exact hidentity

/-- The column of the schema takes what the declaration takes. -/
theorem permits_schema (h : shape.IsAcceptable) (hname : name ∈ shape.names) :
    shape.schema.Permits name v ↔
      ∀ c, (name, c) ∈ shape.columns → c.type.accepts v = true ∧ c.passes v = true := by
  have hwell := Schema.wellFormed_of_ofShape (ofShape_eq_ok.mpr ⟨h, rfl⟩)
  have hcolumn : ∀ c, (name, c) ∈ shape.columns →
      shape.schema.column? name = some { c with binding := some ⟨shape.tableName, name⟩ } := by
    intro c hc
    have hbound : (name, { c with binding := some ⟨shape.tableName, name⟩ })
        ∈ shape.boundColumns := List.mem_map.mpr ⟨_, hc, rfl⟩
    obtain ⟨k, hk⟩ := List.mem_iff_getElem?.mp hbound
    exact (find_schema hwell hk).2
  constructor
  · rintro ⟨c', hc', htakes⟩ c hc
    rw [hcolumn c hc] at hc'
    cases hc'
    exact htakes
  · intro htakes
    obtain ⟨⟨_, c⟩, hc, rfl⟩ := List.mem_map.mp hname
    exact ⟨_, hcolumn c hc, htakes c hc⟩

/-- **A default is accepted as the rule says.** -/
theorem exists_ofShape_withDefault {s : Schema} (hs : Schema.ofShape shape = .ok s)
    (hname : name ∈ shape.names) :
    (∃ s', Schema.ofShape (shape.withDefault name v) = .ok s') ↔ s.Permits name v := by
  obtain ⟨h, rfl⟩ := ofShape_eq_ok.mp hs
  rw [permits_schema h hname, ← isAcceptable_withDefault h]
  constructor
  · rintro ⟨s', hs'⟩
    exact (ofShape_eq_ok.mp hs').1
  · intro hdefault
    exact ⟨_, ofShape_eq_ok.mpr ⟨hdefault, rfl⟩⟩

end Shape

/-! ## The three ways -/

/-- **The three ways to write a value apply the same rule.**

Take a registered entity, any name and any value. On every instance, setting the name to the value
succeeds exactly if there is a column of that name that takes it, and fails with the error that
says what is wrong. An update without page that assigns just this value to the name, by itself or
as an expression, succeeds and fails with it, with the same errors. And if the name is a column,
then the shape with the value as its default is accepted exactly if it can be set. -/
theorem write_paths_agree {e : Entity} {operand : Operand} (name : String)
    (hs : Schema.ofShape shape = .ok e.schema) (hi : i.entity = e) (hq : q.entity = e)
    (hpage : q.isPaged = false) (ho : operand.toExpr = .ok (.literal v)) :
    (((∃ j, i.set name v = .ok j) ↔ e.schema.Permits name v) ∧
      ∀ err, i.set name v = .error err ↔ e.schema.Refuses name v err) ∧
    (((∃ s, q.updateStatement [(name, operand)] = .ok s) ↔ ∃ j, i.set name v = .ok j) ∧
      ∀ err, q.updateStatement [(name, operand)] = .error err ↔ i.set name v = .error err) ∧
    (name ∈ shape.names →
      ((∃ s, Schema.ofShape (shape.withDefault name v) = .ok s) ↔ ∃ j, i.set name v = .ok j)) := by
  subst hi
  have hsame : ∀ err, q.updateStatement [(name, operand)] = .error err ↔
      i.set name v = .error err := by
    intro err
    rw [Query.updateStatement_eq_error hpage ho, Instance.set_eq_error, hq, Instance.schema]
  refine ⟨⟨Instance.exists_set, fun _ => Instance.set_eq_error⟩, ⟨?_, hsame⟩, fun hname => ?_⟩
  · rw [exists_ok_iff, exists_ok_iff]
    exact forall_congr' fun err => not_congr (hsame err)
  · rw [Shape.exists_ofShape_withDefault hs hname, Instance.exists_set, Instance.schema]

/-- A column of lists with a check takes a list with NULL among its items. NULL itself is refused
with the text of the check, and so cannot be the default. -/
theorem write_paths_agree_tags :
    let e : Entity := ⟨⟨0, 0⟩, Shape.jobs.schema⟩
    let i : Instance := .ofRecord e ⟨[("code$", .text "a")]⟩
    let q := e.all.limited 0
    let tags : Value := .array [.null, .text "new"]
    let refusal : Error := .validation "value NULL rejected for column _tags"
    (∃ j, i.set "_tags" tags = .ok j) ∧
      (∃ s, q.updateStatement [("_tags", .expr (.literal tags))] = .ok s) ∧
      (∃ s, Schema.ofShape (Shape.jobs.withDefault "_tags" tags) = .ok s) ∧
      i.set "_tags" .null = .error refusal ∧
      q.updateStatement [("_tags", .value .null)] = .error refusal ∧
      ¬ ∃ s, Schema.ofShape (Shape.jobs.withDefault "_tags" .null) = .ok s := by
  intro e i q tags refusal
  have hs : Schema.ofShape Shape.jobs = .ok e.schema := rfl
  have hpage : q.isPaged = false := rfl
  have hname : "_tags" ∈ Shape.jobs.names := by decide
  have hlist : (Operand.expr (.literal tags)).toExpr = .ok (.literal tags) := rfl
  have hnull : (Operand.value .null).toExpr = .ok (.literal .null) := rfl
  obtain ⟨⟨hset, -⟩, ⟨hupdate, -⟩, hdefault⟩ := write_paths_agree "_tags" (i := i)
    hs rfl rfl hpage hlist
  obtain ⟨⟨hset', herror⟩, ⟨-, hsame⟩, hdefault'⟩ := write_paths_agree "_tags" (i := i)
    hs rfl rfl hpage hnull
  have htaken : ∃ j, i.set "_tags" tags = .ok j := hset.mpr ⟨_, rfl, rfl, rfl⟩
  have hrefused : i.set "_tags" .null = .error refusal :=
    (herror _).mpr (.rejected (c := Shape.jobs.boundColumns[2].2) rfl rfl rfl)
  refine ⟨htaken, hupdate.mpr htaken, (hdefault hname).mpr htaken, hrefused,
    (hsame _).mpr hrefused, fun h => ?_⟩
  obtain ⟨j, hj⟩ := (hdefault' hname).mp h
  rw [hrefused] at hj
  cases hj

end EntityMapper
