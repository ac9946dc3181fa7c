import EntityMapper.Proofs.Shadow

/-!
# Dirty tracking loses and invents no write

An instance keeps four things about the row it stands for: values, which of them are dirty, whether
the row is stored, and under which identity. `Tracks` relates them to the shadow of the row. It
holds of a new instance and of a loaded one, and every action keeps it, whatever the pool answers,
so it holds in every reachable state. Then what is sent is right as well: it is about the row that
is stored, by its present identity, and writes what is dirty and nothing else.
-/

namespace EntityMapper

open Sql

variable {columns : List (String × Column)} {cells : List Cell} {row : Row} {s : Schema} {k : Nat}
  {name : String} {c : Column}

/-! ## Columns by name -/

theorem Schema.getElem?_of_index? (h : s.index? name = some k) :
    ∃ c, s.columns[k]? = some (name, c) := by
  obtain ⟨hlt, hname, -⟩ := List.findIdx?_eq_some_iff_getElem.mp h
  refine ⟨s.columns[k].2, ?_⟩
  rw [List.getElem?_eq_getElem hlt, ← show s.columns[k].1 = name by simpa using hname]

theorem Schema.getElem?_of_mem (h : name ∈ s.columns.map (·.1)) :
    ∃ (k : Nat) (c : Column), s.columns[k]? = some (name, c) := by
  obtain ⟨⟨n, c⟩, hmem, rfl⟩ := List.mem_map.mp h
  obtain ⟨k, hk⟩ := List.mem_iff_getElem?.mp hmem
  exact ⟨k, c, hk⟩

/-- A column of a well-formed schema is found by its name. -/
theorem Schema.WellFormed.index?_eq (h : s.WellFormed) (hk : s.columns[k]? = some (name, c)) :
    s.index? name = some k := by
  have hsome : (s.index? name).isSome := by
    rw [index?, indexIn, List.findIdx?_isSome, List.any_eq_true]
    exact ⟨_, List.mem_of_getElem? hk, by simp⟩
  obtain ⟨j, hj⟩ := Option.isSome_iff_exists.mp hsome
  obtain ⟨c', hc'⟩ := getElem?_of_index? hj
  have hlt : j < (s.columns.map (·.1)).length := by
    rw [List.length_map]
    exact (List.getElem?_eq_some_iff.mp hc').1
  have hsame : (s.columns.map (·.1))[j]? = (s.columns.map (·.1))[k]? := by
    rw [List.getElem?_map, List.getElem?_map, hk, hc']
    rfl
  rw [hj, (List.getElem?_inj hlt h.columns.distinct).mp hsame]

/-- A column of a well-formed schema is the one of its name. -/
theorem Schema.WellFormed.column_eq (h : s.WellFormed) (hk : s.columns[k]? = some (name, c)) :
    s.column name = .ok c := by
  rw [Schema.column, Schema.column?, h.index?_eq hk, Option.bind_some, hk]
  rfl

/-! ## Cells that hold what a row holds -/

/-- A cell is the one that was changed, or it is what it was. -/
theorem cell_of_modify {f : Cell → Cell} {j : Nat} {cell : Cell}
    (h : (cells.modify j f)[k]? = some cell) :
    (j = k ∧ ∃ old, cells[k]? = some old ∧ cell = f old) ∨ (j ≠ k ∧ cells[k]? = some cell) := by
  rw [List.getElem?_modify] at h
  obtain ⟨old, hold, rfl⟩ := Option.map_eq_some_iff.mp h
  by_cases hjk : j = k
  · exact .inl ⟨hjk, old, hold, if_pos hjk⟩
  · exact .inr ⟨hjk, hold.trans (congrArg some (if_neg hjk).symm)⟩

/-- Whether all cells have the values of a row. -/
def Holds (columns : List (String × Column)) (cells : List Cell) (row : Row) : Prop :=
  ∀ (k : Nat) (name : String) (c : Column) (cell : Cell),
    columns[k]? = some (name, c) → cells[k]? = some cell → cell.value = row name

/-- Whether all cells that are not dirty have the values of a row. -/
def HoldsClean (columns : List (String × Column)) (cells : List Cell) (row : Row) : Prop :=
  ∀ (k : Nat) (name : String) (c : Column) (cell : Cell),
    columns[k]? = some (name, c) → cells[k]? = some cell → cell.isDirty = false →
      cell.value = row name

/-- A row of the values of the cells holds them. -/
theorem holds_values (hd : (columns.map (·.1)).Nodup) (cells : List Cell) :
    Holds columns cells (Row.empty.overlay (picked (·.value) columns cells)) := by
  intro k name c cell hk hcell
  rw [overlay_picked hd hk hcell, Row.empty, Option.or_none]

/-- What is written where something is dirty. -/
def Cell.change (cell : Cell) : Option Value :=
  if cell.isDirty then some (cell.value.getD .null) else none

theorem Instance.changes_eq (i : Instance) :
    i.changes = picked Cell.change i.schema.columns i.cells := by
  refine congrFun (congrArg List.filterMap (funext fun slot => ?_)) _
  cases hdirty : slot.2.isDirty <;> simp [Cell.change, hdirty]

/-- **Once the dirty cells are written, the row has all values.** -/
theorem HoldsClean.overlay (hd : (columns.map (·.1)).Nodup) (h : HoldsClean columns cells row)
    (hvalue : ∀ cell ∈ cells, cell.isDirty = true → cell.value.isSome) :
    Holds columns cells (row.overlay (picked Cell.change columns cells)) := by
  intro k name c cell hk hcell
  rw [overlay_picked hd hk hcell, Cell.change]
  cases hdirty : cell.isDirty with
  | false => exact h k name c cell hk hcell hdirty
  | true =>
      obtain ⟨v, hv⟩ := Option.isSome_iff_exists.mp
        (hvalue cell (List.mem_of_getElem? hcell) hdirty)
      rw [hv]
      rfl

/-- A field of a record that is put into its cell is put into the row. -/
theorem Holds.mergeField (hs : s.WellFormed) (h : Holds s.columns cells row)
    (field : String × Value) :
    Holds s.columns (Instance.mergeField s cells field)
      (if (s.index? field.1).isSome then row.put field else row) := by
  unfold Instance.mergeField
  cases hindex : s.index? field.1 with
  | none => exact h
  | some j =>
      obtain ⟨c', hj⟩ := Schema.getElem?_of_index? hindex
      intro k name c cell hk hcell
      change cell.value = row.put field name
      rcases cell_of_modify hcell with ⟨rfl, old, -, rfl⟩ | ⟨hjk, hold⟩
      · -- the cell of the field
        rw [hj] at hk
        cases hk
        rw [Row.put, if_pos rfl]
      · -- another cell, so another name
        have hne : name ≠ field.1 := by
          rintro rfl
          exact hjk (Option.some.inj (hindex.symm.trans (hs.index?_eq hk)))
        rw [Row.put, if_neg hne]
        exact h k name c cell hk hold

theorem Holds.merge (hs : s.WellFormed) (h : Holds s.columns cells row)
    (fields : List (String × Value)) :
    Holds s.columns (fields.foldl (Instance.mergeField s) cells)
      (row.overlay (fields.filter fun field => (s.index? field.1).isSome)) := by
  induction fields generalizing cells row with
  | nil => exact h
  | cons field fields ih =>
      have hnext := ih (h.mergeField hs field)
      by_cases hknown : (s.index? field.1).isSome
      · rw [if_pos hknown] at hnext
        rw [List.filter_cons_of_pos (by exact hknown)]
        exact hnext
      · rw [if_neg hknown] at hnext
        rw [List.filter_cons_of_neg (by exact hknown)]
        exact hnext

theorem length_mergeField (s : Schema) (cells : List Cell) (field : String × Value) :
    (Instance.mergeField s cells field).length = cells.length := by
  unfold Instance.mergeField
  split
  · exact List.length_modify ..
  · rfl

theorem length_merge (s : Schema) (cells : List Cell) (fields : List (String × Value)) :
    (fields.foldl (Instance.mergeField s) cells).length = cells.length := by
  induction fields generalizing cells with
  | nil => rfl
  | cons field fields ih => exact (ih _).trans (length_mergeField s cells field)

/-! ## Instances and their shadows -/

/-- What an instance knows of its row agrees with the shadow of the row. -/
structure Tracks (e : Entity) (i : Instance) (shadow : Option Row) : Prop where
  entity : i.entity = e
  size : i.cells.length = e.schema.columns.length
  /-- What is dirty has a value. -/
  valued : ∀ cell ∈ i.cells, cell.isDirty = true → cell.value.isSome
  /-- If the row is stored, it has the values that are not dirty, and is found by its identity. -/
  stored : i.isSaved = true → ∃ row, shadow = some row ∧ HoldsClean e.schema.columns i.cells row
    ∧ i.savedIdentity = e.schema.identityName?.bind row
  unstored : i.isSaved = false → shadow = none

variable {e : Entity} {i j : Instance} {shadow : Option Row} {v : Value}

/-- The identity of cells is the identity of the row that they hold. -/
theorem identityValue_of_holds (he : i.entity = e)
    (hsize : i.cells.length = e.schema.columns.length) (h : Holds e.schema.columns i.cells row) :
    i.identityValue? = e.schema.identityName?.bind row := by
  rw [Instance.identityValue?, Instance.schema, he, Schema.identityName?]
  cases e.schema.identity with
  | none => rfl
  | some k =>
      change i.cells[k]?.bind _ = (e.schema.columns[k]?.map _).bind row
      cases hk : e.schema.columns[k]? with
      | none =>
          -- no column at that position, so no cell either
          have hle := List.getElem?_eq_none_iff.mp hk
          rw [List.getElem?_eq_none (hsize ▸ hle)]
          rfl
      | some p =>
          have hlt := (List.getElem?_eq_some_iff.mp hk).1
          have hcell := List.getElem?_eq_getElem (hsize ▸ hlt : k < i.cells.length)
          rw [hcell]
          exact h k p.1 p.2 _ hk hcell

theorem cell_of_persisted {cell : Cell} (h : i.persisted.cells[k]? = some cell) :
    ∃ old, i.cells[k]? = some old ∧ cell = ⟨old.value, false⟩ := by
  change (i.cells.map _)[k]? = some cell at h
  rw [List.getElem?_map] at h
  obtain ⟨old, hold, rfl⟩ := Option.map_eq_some_iff.mp h
  exact ⟨old, hold, rfl⟩

/-- That an instance is stored does not change what its cells hold. -/
theorem Holds.persisted (h : Holds columns i.cells row) : Holds columns i.persisted.cells row := by
  intro k name c cell hk hcell
  obtain ⟨old, hold, rfl⟩ := cell_of_persisted hcell
  exact h k name c old hk hold

/-- **An instance whose cells all have the values of a row tracks it once it is stored.** -/
theorem tracks_persisted (he : i.entity = e) (hsize : i.cells.length = e.schema.columns.length)
    (h : Holds e.schema.columns i.cells row) : Tracks e i.persisted (some row) := by
  refine ⟨he, ?_, ?_, fun _ => ⟨row, rfl, ?_, identityValue_of_holds he hsize h⟩, nofun⟩
  · rw [Instance.persisted, List.length_map, hsize]
  · intro cell hcell hdirty
    obtain ⟨cell', -, rfl⟩ := List.mem_map.mp hcell
    cases hdirty
  · intro k name c cell hk hcell _
    exact h.persisted k name c cell hk hcell

theorem Instance.index_eq_ok (h : i.index name = .ok k) : i.schema.index? name = some k := by
  unfold index at h
  split at h
  · rename_i index hsome
    cases h
    exact hsome
  · cases h

theorem Instance.checkAssignment_eq_ok :
    checkAssignment c v = .ok () ↔ c.type.accepts v = true ∧ c.passes v = true := by
  rw [checkAssignment, Column.validate]
  cases c.type.accepts v <;> cases c.passes v <;> simp

/-- A column that can be set has accepted the value, and only its cell changes. -/
theorem set_eq_ok (h : i.set name v = .ok j) : ∃ k c,
    i.schema.columns[k]? = some (name, c) ∧ c.type.accepts v = true ∧ c.passes v = true ∧
      j = { i with
        cells := i.cells.modify k fun cell => ⟨some v, i.isSaved || cell.isDirty⟩ } := by
  unfold Instance.set at h
  rw [bind_eq_ok] at h
  obtain ⟨c, hcolumn, h⟩ := h
  rw [bind_eq_ok] at h
  obtain ⟨_, hcheck, h⟩ := h
  rw [bind_eq_ok] at h
  obtain ⟨k, hindex, h⟩ := h
  cases h
  have hk := Instance.index_eq_ok hindex
  obtain ⟨haccepts, hpasses⟩ := Instance.checkAssignment_eq_ok.mp hcheck
  obtain ⟨c', hc'⟩ := Schema.getElem?_of_index? hk
  have hsame : c' = c := by
    unfold Schema.column at hcolumn
    rw [Schema.column?, hk, Option.bind_some, hc'] at hcolumn
    exact Except.ok.inj hcolumn
  exact ⟨k, c, hsame ▸ hc', haccepts, hpasses, rfl⟩

/-- Setting a column of a stored instance makes it dirty, so the others still agree. -/
theorem tracks_set (h : Tracks e i shadow) (hset : i.set name v = .ok j) : Tracks e j shadow := by
  obtain ⟨k, c, -, -, -, rfl⟩ := set_eq_ok hset
  refine ⟨h.entity, ?_, ?_, fun hsaved => ?_, h.unstored⟩
  · exact (List.length_modify ..).trans h.size
  · intro cell hcell hdirty
    obtain ⟨l, hl⟩ := List.mem_iff_getElem?.mp hcell
    rcases cell_of_modify hl with ⟨-, old, -, rfl⟩ | ⟨-, hold⟩
    · rfl
    · exact h.valued cell (List.mem_of_getElem? hold) hdirty
  · obtain ⟨row, hshadow, hclean, hidentity⟩ := h.stored hsaved
    refine ⟨row, hshadow, fun l n c cell hl hcell hdirty => ?_, hidentity⟩
    rcases cell_of_modify hcell with ⟨-, old, -, rfl⟩ | ⟨-, hold⟩
    · change i.isSaved = true at hsaved
      simp [hsaved] at hdirty
    · exact hclean l n c cell hl hold hdirty

/-- **Storing an instance makes its row.** -/
theorem tracks_stored (he : e.IsRegistered) (h : Tracks e i shadow) (rows : List Record) :
    Tracks e (i.stored rows) (some ((Row.empty.overlay i.values).overlay (match rows.head? with
      | some r => e.schema.known r
      | none => []))) := by
  have hd := he.wellFormed.columns.distinct
  have hvalues : Holds e.schema.columns i.cells (Row.empty.overlay i.values) := by
    rw [Instance.values, Instance.slots, Instance.schema, h.entity]
    exact holds_values hd i.cells
  unfold Instance.stored
  cases rows.head? with
  | none => exact tracks_persisted h.entity h.size hvalues
  | some r =>
      have hschema : i.schema = e.schema := congrArg Entity.schema h.entity
      refine tracks_persisted (i := i.merge r) h.entity ?_ ?_
      · rw [Instance.merge, length_merge, h.size]
      · rw [Instance.merge, hschema]
        exact hvalues.merge he.wellFormed r.fields

/-- **Saving the dirty columns makes the row what the instance is.** -/
theorem tracks_updated (he : e.IsRegistered) (h : Tracks e i shadow) (hsaved : i.isSaved = true) :
    Tracks e i.persisted (shadow.map (·.overlay i.changes)) := by
  obtain ⟨row, rfl, hclean, -⟩ := h.stored hsaved
  have hwritten := hclean.overlay he.wellFormed.columns.distinct h.valued
  refine tracks_persisted h.entity h.size ?_
  rw [Instance.changes_eq, Instance.schema, h.entity]
  exact hwritten

theorem tracks_deleted (h : Tracks e i shadow) : Tracks e i.deleted none := by
  refine ⟨h.entity, ?_, ?_, fun hsaved => (by cases hsaved), fun _ => rfl⟩
  · rw [Instance.deleted, List.length_map, h.size]
  · intro cell hcell hdirty
    obtain ⟨cell', -, rfl⟩ := List.mem_map.mp hcell
    cases hdirty

/-! ## Runs -/

theorem tracks_new (e : Entity) : Tracks e (Instance.new e) none := by
  refine ⟨rfl, List.length_map .., ?_, fun hsaved => (by cases hsaved), fun _ => rfl⟩
  intro cell hcell hdirty
  obtain ⟨p, -, rfl⟩ := List.mem_map.mp hcell
  cases hdirty

/-- The cells of a loaded instance before it counts as stored: what is no column is left out. -/
theorem holds_merged (hs : s.WellFormed) (r : Record) :
    Holds s.columns (r.fields.foldl (Instance.mergeField s) (s.columns.map fun _ => ⟨none, false⟩))
      (Row.empty.overlay (s.known r)) := by
  refine Holds.merge hs (fun k name c cell hk hcell => ?_) r.fields
  rw [List.getElem?_map, hk] at hcell
  cases hcell
  rfl

theorem tracks_loaded (he : e.IsRegistered) {r : Record} (hr : r.columns.Nodup) :
    Tracks e (Instance.ofRecord e r) (some (e.schema.restrict r)) := by
  have hmerged := holds_merged he.wellFormed r
  rw [Schema.overlay_known hr] at hmerged
  refine tracks_persisted rfl ?_ hmerged
  exact (length_merge ..).trans (List.length_map ..)

/-- Whether an action can happen to an instance of an entity. A registration is one entity. -/
def Action.IsFor (e : Entity) : Action → Prop
  | insert q => q.entity.same e = true → q.entity = e
  | _ => True

/-- The states of an instance, each with the shadow of its row, that a run can come to. The client
may have been used for anything between two actions, so each finds the pool in any state. -/
inductive Reachable (σ : Type) [Pool σ] (e : Entity) : Instance → Option Row → Prop where
  /-- A new instance stands for no row. -/
  | new : Reachable σ e (Instance.new e) none
  /-- A loaded instance stands for the record it was loaded from. -/
  | loaded {r : Record} (h : r.columns.Nodup) :
    Reachable σ e (Instance.ofRecord e r) (some (e.schema.restrict r))
  /-- An action changes the instance, and what it exchanges with the pool changes the row. -/
  | step {i : Instance} {shadow : Option Row} (h : Reachable σ e i shadow) {a : Action}
    (ha : a.IsFor e) (c : Client σ) :
    Reachable σ e (a.perform i c).left
      ((a.perform i c).exchanges.foldl (shadowAfter e.schema) shadow)

/-- A query stores instances of its own entity only. -/
theorem entity_eq_of_insert {q : Query} {s : Statement} (ha : (Action.insert q).IsFor e)
    (hi : i.entity = e) (h : q.insertStatement i = .ok s) : q.entity = i.entity := by
  obtain ⟨t, ht, -⟩ := Request.statement_eq_ok (r := .insert i) h
  have hsame := (Query.insertTemplate_ok ht).1
  rw [hi] at hsame ⊢
  exact ha hsame

/-- **Every step keeps the instance and its shadow in agreement.** -/
theorem tracks_step (he : e.IsRegistered) (h : Tracks e i shadow) {a : Action} (ha : a.IsFor e)
    {p : Performed} (hp : i.Step a p) :
    Tracks e p.left (p.exchanges.foldl (shadowAfter e.schema) shadow) := by
  have hi : i.entity.IsRegistered := h.entity ▸ he
  -- only an answered statement changes the row, and each is read as what it should write
  cases hp with
  | refused a => exact h
  | assigned hset => exact tracks_set h hset
  | unchanged hsaved hdirty => exact h
  | failed e' hsends => exact h
  | answered rows hsends =>
      cases hsends with
      | insert hs =>
          have hread := Instance.read_insert hi (entity_eq_of_insert ha h.entity hs) hs
          rw [List.foldl_cons, List.foldl_nil, shadowAfter_insert hread]
          exact tracks_stored he h rows
      | first hsaved hs =>
          have hread := Instance.read_insert hi rfl hs
          rw [List.foldl_cons, List.foldl_nil, shadowAfter_insert hread]
          exact tracks_stored he h rows
      | update hsaved hcondition hs =>
          obtain ⟨key, id, -, -, hread⟩ := Instance.read_update hi hcondition hs
          rw [List.foldl_cons, List.foldl_nil, shadowAfter_update hread]
          exact tracks_updated he h hsaved
      | delete hsaved hcondition hs =>
          obtain ⟨key, id, -, -, hread⟩ := Instance.read_delete hi hcondition hs
          rw [List.foldl_cons, List.foldl_nil, shadowAfter_delete hread]
          exact tracks_deleted h

theorem tracks_reachable {σ : Type} [Pool σ] (he : e.IsRegistered) (h : Reachable σ e i shadow) :
    Tracks e i shadow := by
  induction h with
  | new => exact tracks_new e
  | loaded hr => exact tracks_loaded he hr
  | step _ ha c ih => exact tracks_step he ih ha (Instance.step_perform _ _ c)

/-! ## What is seen from outside -/

/-- Whether each column that is not dirty has its value in the row, or none if the row has none. -/
def Instance.AgreesWith (i : Instance) (shadow : Option Row) : Prop :=
  ∃ row, shadow = some row ∧ ∀ name ∈ i.schema.columns.map (·.1), name ∉ i.dirtyColumns →
    i.get name = .ok (row name)

/-- Whether the row is found by the value of its identity column. -/
def FindsRow (s : Schema) (shadow : Option Row) (key : String) (id : Value) : Prop :=
  ∃ row, shadow = some row ∧ s.identityName? = some key ∧ row key = some id

/-- Whether a write is the one that an instance owes its row: all values of a new row, and of a
stored row the dirty columns in the order of the schema with their present values. -/
def Write.IsOwed (i : Instance) (shadow : Option Row) : Write → Prop
  | insert table values => table = i.entity.table ∧ values = i.values
  | update table assigned key id => table = i.entity.table
    ∧ assigned.map (·.1) = i.dirtyColumns ∧ (∀ p ∈ assigned, i.get p.1 = .ok (some p.2))
    ∧ FindsRow i.schema shadow key id
  | delete table key id => table = i.entity.table ∧ FindsRow i.schema shadow key id

/-- What holds right after an action that succeeded. A column that was set has its value, and is
dirty if the row is stored. After any other action nothing is dirty: the row is gone if it was
deleted, and otherwise the instance is what its row is. -/
def Action.Settles (left : Instance) (shadow : Option Row) : Action → Prop
  | set name v => left.get name = .ok (some v) ∧
    (left.isSaved = true → name ∈ left.dirtyColumns)
  | delete => left.isSaved = false ∧ left.dirtyColumns = [] ∧ shadow = none
  | save | insert _ => left.isSaved = true ∧ left.dirtyColumns = [] ∧ left.AgreesWith shadow

theorem get_eq (hs : i.schema.WellFormed) (hk : i.schema.columns[k]? = some (name, c)) :
    i.get name = .ok (i.cells[k]?.bind (·.value)) := by
  rw [Instance.get, Instance.index, hs.index?_eq hk]
  rfl

/-- Where the cells have the values of a row, so do the columns. -/
theorem get_of_holds (hs : i.schema.WellFormed) (hsize : i.cells.length = i.schema.columns.length)
    (h : Holds i.schema.columns i.cells row) (hk : i.schema.columns[k]? = some (name, c)) :
    i.get name = .ok (row name) := by
  have hlt : k < i.cells.length := hsize ▸ (List.getElem?_eq_some_iff.mp hk).1
  have hcell := List.getElem?_eq_getElem hlt
  rw [get_eq hs hk, hcell]
  exact congrArg Except.ok (h k name c _ hk hcell)

theorem mem_dirtyColumns {cell : Cell} (hk : i.schema.columns[k]? = some (name, c))
    (hcell : i.cells[k]? = some cell) (hdirty : cell.isDirty = true) : name ∈ i.dirtyColumns := by
  have hslot : i.slots[k]? = some ((name, c), cell) := List.getElem?_zip_eq_some.mpr ⟨hk, hcell⟩
  exact List.mem_filterMap.mpr ⟨_, List.mem_of_getElem? hslot, if_pos hdirty⟩

theorem dirtyColumns_eq_nil (h : ∀ cell ∈ i.cells, cell.isDirty = false) : i.dirtyColumns = [] := by
  rw [Instance.dirtyColumns, List.filterMap_eq_nil_iff]
  intro slot hslot
  simp [h slot.2 (List.of_mem_zip hslot).2]

theorem names_changes (i : Instance) : i.changes.map (·.1) = i.dirtyColumns := by
  rw [Instance.changes, List.map_filterMap, Instance.dirtyColumns]
  refine congrFun (congrArg List.filterMap (funext fun slot => ?_)) _
  cases hdirty : slot.2.isDirty <;> simp [hdirty]

/-- What is written is the value of a dirty cell, under the name of its column. -/
theorem slot_of_mem_changes {p : String × Value} (hp : p ∈ i.changes) :
    ∃ (k : Nat) (c : Column) (cell : Cell),
      i.schema.columns[k]? = some (p.1, c) ∧ i.cells[k]? = some cell ∧ cell.isDirty = true
        ∧ cell.value.getD .null = p.2 := by
  obtain ⟨⟨⟨n, c⟩, cell⟩, hslot, hchange⟩ := List.mem_filterMap.mp hp
  obtain ⟨k, hk⟩ := List.mem_iff_getElem?.mp hslot
  obtain ⟨hcolumn, hcell⟩ := List.getElem?_zip_eq_some.mp hk
  cases hdirty : cell.isDirty with
  | false => simp [hdirty] at hchange
  | true =>
      simp only [hdirty, if_true, Option.some.injEq] at hchange
      subst hchange
      exact ⟨k, c, cell, hcolumn, hcell, hdirty, rfl⟩

/-- What is written of a dirty column is its present value. -/
theorem get_of_mem_changes (hs : i.schema.WellFormed)
    (hvalued : ∀ cell ∈ i.cells, cell.isDirty = true → cell.value.isSome) {p : String × Value}
    (hp : p ∈ i.changes) : i.get p.1 = .ok (some p.2) := by
  obtain ⟨k, c, cell, hcolumn, hcell, hdirty, hvalue⟩ := slot_of_mem_changes hp
  obtain ⟨v, hv⟩ := Option.isSome_iff_exists.mp
    (hvalued cell (List.mem_of_getElem? hcell) hdirty)
  rw [hv, Option.getD_some] at hvalue
  rw [get_eq hs hcolumn, hcell, Option.bind_some, hv, hvalue]

theorem Tracks.agreesWith (he : e.IsRegistered) (h : Tracks e i shadow)
    (hsaved : i.isSaved = true) : i.AgreesWith shadow := by
  obtain ⟨row, hshadow, hclean, -⟩ := h.stored hsaved
  have hschema : i.schema = e.schema := congrArg Entity.schema h.entity
  refine ⟨row, hshadow, fun name hname hdirty => ?_⟩
  obtain ⟨k, c, hk⟩ := Schema.getElem?_of_mem hname
  have hlt : k < i.cells.length := by
    rw [h.size, ← hschema]
    exact (List.getElem?_eq_some_iff.mp hk).1
  have hcell := List.getElem?_eq_getElem hlt
  rw [get_eq (hschema ▸ he.wellFormed) hk, hcell]
  refine congrArg Except.ok (hclean k name c _ (hschema ▸ hk) hcell ?_)
  cases hd : (i.cells[k]).isDirty with
  | false => rfl
  | true => exact absurd (mem_dirtyColumns hk hcell hd) hdirty

/-- What a statement looks for is the identity of the shadow. -/
theorem Tracks.findsRow (h : Tracks e i shadow) (hsaved : i.isSaved = true) {key : String}
    {id : Value} (hkey : i.schema.identityName? = some key) (hid : i.savedIdentity = some id) :
    FindsRow i.schema shadow key id := by
  obtain ⟨row, hshadow, -, hidentity⟩ := h.stored hsaved
  have hschema : i.schema = e.schema := congrArg Entity.schema h.entity
  rw [← hschema, hkey, hid] at hidentity
  exact ⟨row, hshadow, hkey, hidentity.symm⟩

/-- **What an instance sends is what it owes its row.** -/
theorem Tracks.isOwed (he : e.IsRegistered) (h : Tracks e i shadow) {a : Action} (ha : a.IsFor e)
    {s : Statement} {next : List Record → Instance} (hsends : i.Sends a s next) :
    ∃ w, Write.read s = some w ∧ w.IsOwed i shadow := by
  have hi : i.entity.IsRegistered := h.entity ▸ he
  cases hsends with
  | insert hs =>
      exact ⟨_, Instance.read_insert hi (entity_eq_of_insert ha h.entity hs) hs, rfl, rfl⟩
  | first hsaved hs => exact ⟨_, Instance.read_insert hi rfl hs, rfl, rfl⟩
  | update hsaved hcondition hs =>
      obtain ⟨key, id, hkey, hid, hread⟩ := Instance.read_update hi hcondition hs
      exact ⟨_, hread, rfl, names_changes i, fun p => get_of_mem_changes hi.wellFormed h.valued,
        h.findsRow hsaved hkey hid⟩
  | delete hsaved hcondition hs =>
      obtain ⟨key, id, hkey, hid, hread⟩ := Instance.read_delete hi hcondition hs
      exact ⟨_, hread, rfl, h.findsRow hsaved hkey hid⟩

theorem dirtyColumns_persisted (i : Instance) : i.persisted.dirtyColumns = [] := by
  refine dirtyColumns_eq_nil fun cell hcell => ?_
  obtain ⟨cell', -, rfl⟩ := List.mem_map.mp hcell
  rfl

theorem dirtyColumns_deleted (i : Instance) : i.deleted.dirtyColumns = [] := by
  refine dirtyColumns_eq_nil fun cell hcell => ?_
  obtain ⟨cell', -, rfl⟩ := List.mem_map.mp hcell
  rfl

theorem settled_stored (i : Instance) (rows : List Record) :
    (i.stored rows).isSaved = true ∧ (i.stored rows).dirtyColumns = [] := by
  unfold Instance.stored
  split
  · rename_i r _
    exact ⟨rfl, dirtyColumns_persisted (i.merge r)⟩
  · exact ⟨rfl, dirtyColumns_persisted i⟩

/-- A column that was set has its value, which is to be written if the row is stored. -/
theorem settles_set {before : Option Row} (he : e.IsRegistered) (h : Tracks e i before)
    (hset : i.set name v = .ok j) : (Action.set name v).Settles j shadow := by
  obtain ⟨k, c, hk, -, -, hj⟩ := set_eq_ok hset
  have hschema : i.schema = e.schema := congrArg Entity.schema h.entity
  have hkj : j.schema.columns[k]? = some (name, c) := by rw [hj]; exact hk
  have hlt : k < i.cells.length := by
    rw [h.size, ← hschema]
    exact (List.getElem?_eq_some_iff.mp hk).1
  have hcell : j.cells[k]? = some ⟨some v, i.isSaved || (i.cells[k]).isDirty⟩ := by
    simp [hj, List.getElem?_eq_getElem hlt]
  refine ⟨?_, fun hsaved => mem_dirtyColumns hkj hcell ?_⟩
  · have hwell : j.schema.WellFormed := by rw [hj]; exact hschema ▸ he.wellFormed
    rw [get_eq hwell hkj, hcell]
    rfl
  · rw [hj] at hsaved
    rw [hsaved, Bool.true_or]

/-- **After a success nothing is left to write.** -/
theorem settles_step {before : Option Row} (he : e.IsRegistered) (h : Tracks e i before)
    {a : Action} {p : Performed} (hp : i.Step a p) (hleft : Tracks e p.left shadow)
    (hsucceeded : p.succeeded = true) : a.Settles p.left shadow := by
  cases hp with
  | refused a => cases hsucceeded
  | assigned hset => exact settles_set he h hset
  | unchanged hsaved hdirty =>
      refine ⟨hsaved, dirtyColumns_eq_nil fun cell hcell => ?_, hleft.agreesWith he hsaved⟩
      cases hd : cell.isDirty with
      | false => rfl
      | true =>
          rw [Instance.isDirty, List.any_eq_false] at hdirty
          exact absurd hd (hdirty cell hcell)
  | failed e' hsends => cases hsucceeded
  | answered rows hsends =>
      cases hsends with
      | insert hs =>
          obtain ⟨hsaved, hclean⟩ := settled_stored i rows
          exact ⟨hsaved, hclean, hleft.agreesWith he hsaved⟩
      | first hsaved hs =>
          obtain ⟨hsaved, hclean⟩ := settled_stored i rows
          exact ⟨hsaved, hclean, hleft.agreesWith he hsaved⟩
      | update hsaved hcondition hs =>
          exact ⟨rfl, dirtyColumns_persisted i, hleft.agreesWith he rfl⟩
      | delete hsaved hcondition hs =>
          exact ⟨rfl, dirtyColumns_deleted i, hleft.unstored rfl⟩

/-- **Dirty tracking loses and invents no write.**

In every reachable state of an instance whose row is stored, each column that is not dirty has the
value of the row. Whatever is done next, whatever the pool answers: what is sent is what the
instance owes its row, found by the identity that the row has at that moment, and right after a
success the instance and its row are one. -/
theorem dirty_tracking {σ : Type} [Pool σ] (he : e.IsRegistered) (h : Reachable σ e i shadow) :
    (i.isSaved = true → i.AgreesWith shadow) ∧
      ∀ (a : Action) (c : Client σ), a.IsFor e →
        (∀ x ∈ (a.perform i c).exchanges,
          ∃ w, Write.read x.statement = some w ∧ w.IsOwed i shadow) ∧
        ((a.perform i c).succeeded = true → a.Settles (a.perform i c).left
          ((a.perform i c).exchanges.foldl (shadowAfter e.schema) shadow)) := by
  have htracks := tracks_reachable he h
  refine ⟨htracks.agreesWith he, fun a c ha => ?_⟩
  have hstep := Instance.step_perform a i c
  refine ⟨fun x hx => ?_, settles_step he htracks hstep (tracks_step he htracks ha hstep)⟩
  obtain ⟨next, hsends⟩ := hstep.sends_of_mem x hx
  exact htracks.isOwed he ha hsends

/-- A loaded row whose identity is changed is still looked for under the old one. -/
theorem dirty_tracking_rename :
    let loaded := Instance.ofRecord Entity.tasks ⟨[("id", .int 1), ("score", .int 5)]⟩
    let c := Client.connect 0 {} ({} : ScriptedPool)
    let renamed := ((Action.set "id" (.int 2)).perform loaded c).left
    ∃ shadow, Reachable ScriptedPool Entity.tasks renamed shadow
      ∧ renamed.isSaved = true ∧ renamed.AgreesWith shadow
      ∧ (Action.save.perform renamed c).exchanges.map (·.statement.sql)
        = ["UPDATE tasks SET id=$1 WHERE tasks.id = $2"]
      ∧ ∀ x ∈ (Action.save.perform renamed c).exchanges,
        ∃ w, Write.read x.statement = some w ∧ w.IsOwed renamed shadow := by
  intro loaded c renamed
  have hset : (Action.set "id" (.int 2)).IsFor Entity.tasks := trivial
  have hreachable : Reachable ScriptedPool Entity.tasks renamed _ :=
    .step (.loaded (by decide)) hset c
  obtain ⟨hagrees, hnext⟩ := dirty_tracking Entity.tasks_isRegistered hreachable
  exact ⟨_, hreachable, rfl, hagrees rfl, by decide, (hnext .save c trivial).1⟩

end EntityMapper
