import EntityMapper.Proofs.Tracking

/-!
# Which shapes are accepted

Registration goes through the columns of a shape one by one and stops at the first fault, and the
identity is looked for in two ways. `Shape.IsAcceptable` says without any such order what a shape
has to be, and `Shape.Describes` what schema it then gives; `registration_accepts_exactly` says that
registration is just that.
-/

namespace EntityMapper

/-! ## Names -/

namespace Sql

/-- The letters of plain names. -/
def IsLetter (c : Char) : Prop := ('A' ≤ c ∧ c ≤ 'Z') ∨ ('a' ≤ c ∧ c ≤ 'z')

/-- The digits of plain names. -/
def IsDigit (c : Char) : Prop := '0' ≤ c ∧ c ≤ '9'

/-- The texts that match `[A-Za-z_][A-Za-z0-9_$]*`. -/
def IsPlainName (name : String) : Prop :=
  ∃ first rest, name.toList = first :: rest ∧ (IsLetter first ∨ first = '_') ∧
    ∀ c ∈ rest, IsLetter c ∨ IsDigit c ∨ c = '_' ∨ c = '$'

theorem isAlpha_iff {c : Char} : c.isAlpha = true ↔ IsLetter c := by
  change (decide (c.val ≥ 'A'.val ∧ c.val ≤ 'Z'.val)
    || decide (c.val ≥ 'a'.val) && decide (c.val ≤ 'z'.val)) = true ↔ _
  simp only [Bool.or_eq_true, Bool.and_eq_true, decide_eq_true_eq]
  rfl

theorem isDigit_iff {c : Char} : c.isDigit = true ↔ IsDigit c := by
  simp only [Char.isDigit, Bool.and_eq_true, decide_eq_true_eq]
  rfl

theorem isIdentifierStart_iff {c : Char} :
    isIdentifierStart c = true ↔ IsLetter c ∨ c = '_' := by
  rw [isIdentifierStart, Bool.or_eq_true, isAlpha_iff, beq_iff_eq]

theorem isIdentifierRest_iff {c : Char} :
    isIdentifierRest c = true ↔ IsLetter c ∨ IsDigit c ∨ c = '_' ∨ c = '$' := by
  simp only [isIdentifierRest, Char.isAlphanum, Bool.or_eq_true, isAlpha_iff, isDigit_iff,
    beq_iff_eq, or_assoc]

theorem isIdentifier_iff {name : String} : isIdentifier name = true ↔ IsPlainName name := by
  rw [isIdentifier, IsPlainName]
  cases name.toList with
  | nil => simp [isIdentifierChars]
  | cons first rest =>
      rw [isIdentifierChars, Bool.and_eq_true, isIdentifierStart_iff, List.all_eq_true]
      constructor
      · rintro ⟨hfirst, hrest⟩
        exact ⟨first, rest, rfl, hfirst, fun c hc => isIdentifierRest_iff.mp (hrest c hc)⟩
      · rintro ⟨_, _, heq, hfirst, hrest⟩
        cases heq
        exact ⟨hfirst, fun c hc => isIdentifierRest_iff.mpr (hrest c hc)⟩

end Sql

/-! ## Shapes -/

/-- Whether a column accepts its own default. -/
def Column.AcceptsDefault (c : Column) : Prop :=
  ∀ v ∈ c.default, c.type.accepts v = true ∧ c.passes v = true

namespace Shape

/-- The names of the declared columns. -/
def names (shape : Shape) : List String := shape.columns.map (·.1)

/-- The declared columns that are flagged as identity. -/
def flagged (shape : Shape) : List (String × Column) := shape.columns.filter (·.2.isIdentity)

/-- The declared columns as columns of the table. -/
def boundColumns (shape : Shape) : List (String × Column) :=
  shape.columns.map fun (name, c) => (name, { c with binding := some ⟨shape.tableName, name⟩ })

/-- What a shape has to be so that it can be registered. -/
structure IsAcceptable (shape : Shape) : Prop where
  table : Sql.IsPlainName shape.tableName
  plain : ∀ d ∈ shape.columns, Sql.IsPlainName d.1
  distinct : shape.names.Nodup
  defaults : ∀ d ∈ shape.columns, d.2.AcceptsDefault
  /-- An identity that is named is one of the columns; if none is, one column is flagged at most. -/
  identity : match shape.identity with
    | some name => name ∈ shape.names
    | none => shape.flagged.length ≤ 1

end Shape

namespace Schema

variable {entity table : String} {columns bound bound' : List (String × Column)}

/-! ## Columns -/

theorem checkDefault_eq_ok {name : String} {c : Column} :
    checkDefault entity name c = .ok () ↔ c.AcceptsDefault := by
  unfold checkDefault Column.AcceptsDefault
  cases c.default with
  | none => simp
  | some v =>
      cases haccepts : c.type.accepts v <;> cases hpasses : c.passes v <;>
        simp [Column.validate, haccepts, hpasses]

theorem any_name_eq_true {name : String} :
    (bound.any fun (n, _) => n == name) = true ↔ name ∈ bound.map (·.1) := by
  simp only [List.any_eq_true, List.mem_map, beq_iff_eq]

/-- A column is added exactly if its name is plain and new and it accepts its default. -/
theorem addColumn_eq_ok {name : String} {c : Column} :
    addColumn entity table bound (name, c) = .ok bound' ↔
      Sql.IsPlainName name ∧ name ∉ bound.map (·.1) ∧ c.AcceptsDefault ∧
        bound' = bound ++ [(name, { c with binding := some ⟨table, name⟩ })] := by
  unfold addColumn
  constructor
  · intro h
    rw [bind_eq_ok] at h
    obtain ⟨_, hname, h⟩ := h
    split at h
    · cases h
    · rename_i hnew
      rw [bind_eq_ok] at h
      obtain ⟨_, hdefault, h⟩ := h
      rw [any_name_eq_true] at hnew
      -- binding gives no other default than the declared one
      have hbound : (c.bind table name none).AcceptsDefault := checkDefault_eq_ok.mp hdefault
      cases h
      exact ⟨Sql.isIdentifier_iff.mp (Sql.checkIdentifier_eq_ok.mp hname), hnew, hbound, rfl⟩
  · rintro ⟨hname, hnew, hdefault, rfl⟩
    rw [← any_name_eq_true] at hnew
    have hbound : (c.bind table name none).AcceptsDefault := hdefault
    refine bind_eq_ok.mpr ⟨(), Sql.checkIdentifier_eq_ok.mpr (Sql.isIdentifier_iff.mpr hname), ?_⟩
    rw [if_neg hnew]
    exact bind_eq_ok.mpr ⟨(), checkDefault_eq_ok.mpr hbound, rfl⟩

/-- Columns are added exactly if each of them can be and no two share a name. -/
theorem addColumns_eq_ok :
    columns.foldlM (addColumn entity table) bound = .ok bound' ↔
      (∀ d ∈ columns, Sql.IsPlainName d.1 ∧ d.1 ∉ bound.map (·.1) ∧ d.2.AcceptsDefault) ∧
        (columns.map (·.1)).Nodup ∧
        bound' = bound ++ columns.map fun (name, c) =>
          (name, { c with binding := some ⟨table, name⟩ }) := by
  induction columns generalizing bound with
  | nil =>
      change Except.ok bound = .ok bound' ↔ _
      simp [eq_comm]
  | cons d columns ih =>
      obtain ⟨name, c⟩ := d
      rw [List.foldlM_cons, bind_eq_ok]
      constructor
      · rintro ⟨first, hfirst, hrest⟩
        obtain ⟨hname, hnew, hdefault, rfl⟩ := addColumn_eq_ok.mp hfirst
        obtain ⟨heach, hdistinct, rfl⟩ := ih.mp hrest
        refine ⟨?_, ?_, ?_⟩
        · intro d hd
          rcases List.mem_cons.mp hd with rfl | hd
          · exact ⟨hname, hnew, hdefault⟩
          · obtain ⟨hplain, hfresh, haccepts⟩ := heach d hd
            rw [List.map_append, List.mem_append, not_or] at hfresh
            exact ⟨hplain, hfresh.1, haccepts⟩
        · refine List.nodup_cons.mpr ⟨fun hmem => ?_, hdistinct⟩
          obtain ⟨d, hd, hsame⟩ := List.mem_map.mp hmem
          obtain ⟨-, hfresh, -⟩ := heach d hd
          exact hfresh (by simp [hsame])
        · rw [List.map_cons, List.append_assoc]
          rfl
      · rintro ⟨heach, hdistinct, rfl⟩
        obtain ⟨hname, hnew, hdefault⟩ := heach (name, c) List.mem_cons_self
        obtain ⟨hfirst, hothers⟩ := List.nodup_cons.mp hdistinct
        refine ⟨_, addColumn_eq_ok.mpr ⟨hname, hnew, hdefault, rfl⟩, ih.mpr ⟨?_, hothers, ?_⟩⟩
        · intro d hd
          obtain ⟨hplain, hfresh, haccepts⟩ := heach d (List.mem_cons_of_mem _ hd)
          refine ⟨hplain, fun hmem => ?_, haccepts⟩
          rw [List.map_append, List.mem_append] at hmem
          rcases hmem with hmem | hmem
          · exact hfresh hmem
          · have hsame : d.1 = name := List.mem_singleton.mp hmem
            exact hfirst (List.mem_map.mpr ⟨d, hd, hsame⟩)
        · rw [List.map_cons, List.append_assoc]
          rfl

/-! ## Looking up -/

/-- A name is looked up in vain exactly if no column has it. -/
theorem indexIn_eq_none (columns : List (String × Column)) (name : String) :
    indexIn columns name = none ↔ name ∉ columns.map (·.1) := by
  rw [indexIn, List.findIdx?_eq_none_iff, List.mem_map]
  simp only [beq_eq_false_iff_ne, not_exists, not_and, ne_eq]

/-! ## The identity -/

/-- What stands at the flagged positions is what is flagged. -/
theorem map_flaggedIn (columns : List (String × Column)) : (flaggedIn columns).map (columns[·]?)
    = (columns.filter (·.2.isIdentity)).map some := by
  have hposition : ∀ p ∈ columns.zipIdx.filter (·.1.2.isIdentity), columns[p.2]? = some p.1 := by
    intro p hp
    exact List.mem_zipIdx_iff_getElem?.mp (List.mem_filter.mp hp).1
  rw [flaggedIn, List.map_map]
  calc (columns.zipIdx.filter (·.1.2.isIdentity)).map ((columns[·]?) ∘ (·.2))
      = (columns.zipIdx.filter (·.1.2.isIdentity)).map (some ∘ (·.1)) :=
        List.map_congr_left hposition
    _ = ((columns.zipIdx.map (·.1)).filter (·.2.isIdentity)).map some := by
        rw [List.filter_map, List.map_map]
        rfl
    _ = (columns.filter (·.2.isIdentity)).map some := by rw [List.zipIdx_map_fst]

/-- The identity can be told exactly if the column that is named is there, or, where none is named,
at most one is flagged. -/
theorem identityIn_eq_ok {named : Option String} {identity : Option Nat} :
    identityIn entity columns named = .ok identity ↔
      (match named with
        | some name => name ∈ columns.map (·.1)
        | none => (columns.filter (·.2.isIdentity)).length ≤ 1) ∧
      identity = match named with
        | some name => indexIn columns name
        | none => (flaggedIn columns).head? := by
  have hlength := congrArg List.length (map_flaggedIn columns)
  rw [List.length_map, List.length_map] at hlength
  cases named with
  | some name =>
      have hmissing := indexIn_eq_none columns name
      cases hindex : indexIn columns name with
      | none => simp [identityIn, hindex, hmissing.mp hindex]
      | some index =>
          rw [hindex] at hmissing
          simp only [identityIn, hindex, Except.ok.injEq, eq_comm (a := identity), iff_and_self]
          exact fun _ => by simpa using hmissing
  | none =>
      rw [← hlength]
      match hflagged : flaggedIn columns with
      | [] => simp [identityIn, hflagged, eq_comm]
      | [index] => simp [identityIn, hflagged, eq_comm]
      | _ :: _ :: _ => simp [identityIn, hflagged]

end Schema

namespace Shape

variable {shape : Shape} {s : Schema}

/-- The schema of a shape that is acceptable. -/
def schema (shape : Shape) : Schema :=
  ⟨shape.name, shape.tableName, shape.boundColumns,
    match shape.identity with
    | some name => Schema.indexIn shape.boundColumns name
    | none => (Schema.flaggedIn shape.boundColumns).head?⟩

theorem names_boundColumns (shape : Shape) : shape.boundColumns.map (·.1) = shape.names := by
  rw [boundColumns, List.map_map]
  rfl

theorem flagged_boundColumns (shape : Shape) :
    shape.boundColumns.filter (·.2.isIdentity)
      = shape.flagged.map fun (name, c) =>
        (name, { c with binding := some ⟨shape.tableName, name⟩ }) := by
  rw [boundColumns, List.filter_map]
  rfl

/-- Registration succeeds exactly on acceptable shapes, with their schema. -/
theorem ofShape_eq_ok : Schema.ofShape shape = .ok s ↔ shape.IsAcceptable ∧ s = shape.schema := by
  unfold Schema.ofShape
  constructor
  · intro h
    rw [bind_eq_ok] at h
    obtain ⟨_, htable, h⟩ := h
    rw [bind_eq_ok] at h
    obtain ⟨columns, hcolumns, h⟩ := h
    rw [bind_eq_ok] at h
    obtain ⟨identity, hidentity, h⟩ := h
    cases h
    obtain ⟨heach, hdistinct, rfl⟩ := Schema.addColumns_eq_ok.mp hcolumns
    change Schema.identityIn _ shape.boundColumns _ = _ at hidentity
    obtain ⟨hone, rfl⟩ := Schema.identityIn_eq_ok.mp hidentity
    rw [names_boundColumns, flagged_boundColumns, List.length_map] at hone
    refine ⟨⟨?_, fun d hd => (heach d hd).1, hdistinct, fun d hd => (heach d hd).2.2, hone⟩, rfl⟩
    exact Sql.isIdentifier_iff.mp (Sql.checkIdentifier_eq_ok.mp htable)
  · rintro ⟨h, rfl⟩
    have htable : Sql.checkIdentifier .table shape.tableName = .ok () :=
      Sql.checkIdentifier_eq_ok.mpr (Sql.isIdentifier_iff.mpr h.table)
    have hcolumns : shape.columns.foldlM (Schema.addColumn shape.name shape.tableName) []
        = .ok shape.boundColumns := by
      refine Schema.addColumns_eq_ok.mpr ⟨fun d hd => ?_, h.distinct, rfl⟩
      exact ⟨h.plain d hd, List.not_mem_nil, h.defaults d hd⟩
    have hidentity := h.identity
    rw [← names_boundColumns, ← List.length_map, ← flagged_boundColumns] at hidentity
    refine bind_eq_ok.mpr ⟨(), htable, bind_eq_ok.mpr ⟨_, hcolumns, bind_eq_ok.mpr ?_⟩⟩
    exact ⟨_, Schema.identityIn_eq_ok.mpr ⟨hidentity, rfl⟩, rfl⟩

/-! ## The schema of a shape -/

theorem find_schema (h : shape.schema.WellFormed) {k : Nat} {name : String} {c : Column}
    (hk : shape.boundColumns[k]? = some (name, c)) :
    shape.schema.index? name = some k ∧ shape.schema.column? name = some c := by
  have hindex : shape.schema.index? name = some k := h.index?_eq hk
  refine ⟨hindex, ?_⟩
  rw [Schema.column?, hindex]
  exact congrArg (Option.map (·.2)) hk

/-- A shape with two flagged columns, one of which is named as the identity and was bound before,
and a list that is checked and has a default. -/
def jobs : Shape :=
  ⟨"Job", none, [("id", .serial), ("code$", Column.text.primaryKey.bind "old" "code" none),
    ("_tags", (Column.text.asArray.withCheck fun v => !v.isNull).withDefault
      (.array [.text "new", .null]))], some "code$"⟩

end Shape

end EntityMapper
