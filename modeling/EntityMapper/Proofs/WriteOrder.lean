import EntityMapper.Proofs.Assigning
import EntityMapper.Proofs.Inserting

/-!
# The order of assignments

Columns of an instance are set one after the other, and a column may be set again. What that leaves
depends on the values that were given last only: it is what setting all of them at once leaves. So
the order does not matter, neither for the instance nor for the statement that saves it, which
writes the columns in the order of the schema.
-/

namespace EntityMapper

variable {σ : Type} {e : Entity} {i j : Instance} {s : Sql.Statement} {name : String} {v : Value}
  {ws : List (String × Value)} {given : String → Option Value} {k : Nat} {c : Column}

/-! ## Setting columns in order and at once -/

/-- A cell that is given a value, or is left as it is. -/
def Cell.give (cell : Cell) (isSaved : Bool) (v : Option Value) : Cell :=
  ⟨v.or cell.value, (isSaved && v.isSome) || cell.isDirty⟩

theorem Cell.give_none (cell : Cell) (isSaved : Bool) : cell.give isSaved none = cell := by
  rw [give, Option.none_or, Option.isSome_none, Bool.and_false, Bool.false_or]

/-- What is given last stays, and what made the cell dirty once keeps it so. -/
theorem Cell.give_give (cell : Cell) (isSaved : Bool) (old : Option Value) (v : Value) :
    ⟨some v, isSaved || (cell.give isSaved old).isDirty⟩ = cell.give isSaved (some v) := by
  cases isSaved <;> simp [give]

namespace Instance

/-- The instance with columns set one after the other. -/
def setAll (i : Instance) (ws : List (String × Value)) : Except Error Instance :=
  ws.foldlM (fun i (name, v) => i.set name v) i

/-- The instance with columns set at once: those that are given a value. -/
def setAtOnce (i : Instance) (given : String → Option Value) : Instance :=
  { i with cells := i.slots.map fun slot => slot.2.give i.isSaved (given slot.1.1) }

theorem setAtOnce_none (hsize : i.cells.length = i.schema.columns.length) :
    i.setAtOnce (fun _ => none) = i := by
  have hcells : i.slots.map (·.2) = i.cells := List.map_snd_zip (Nat.le_of_eq hsize)
  rw [setAtOnce]
  simp only [Cell.give_none, hcells]

/-- **To set one more column is to set all of them at once.** -/
theorem set_setAtOnce (hs : i.schema.WellFormed) (h : (i.setAtOnce given).set name v = .ok j) :
    j = i.setAtOnce fun n => if name = n then some v else given n := by
  obtain ⟨k, c, hk, -, -, rfl⟩ := set_eq_ok h
  refine congrArg (fun cells => { i with cells := cells }) (List.ext_getElem? fun l => ?_)
  change ((i.slots.map fun slot => slot.2.give i.isSaved (given slot.1.1)).modify k
    fun cell => ⟨some v, i.isSaved || cell.isDirty⟩)[l]? = _
  rw [List.getElem?_modify, List.getElem?_map, List.getElem?_map]
  cases hl : i.slots[l]? with
  | none => rfl
  | some slot =>
      obtain ⟨⟨n, d⟩, cell⟩ := slot
      have hcolumn := (List.getElem?_zip_eq_some.mp hl).1
      -- the cell that is set is the one of the column of that name
      have hname : k = l ↔ name = n := by
        constructor
        · rintro rfl
          exact congrArg Prod.fst (Option.some.inj (hk.symm.trans hcolumn))
        · rintro rfl
          exact Option.some.inj ((hs.index?_eq hk).symm.trans (hs.index?_eq hcolumn))
      by_cases hkl : k = l
      · have hn := hname.mp hkl
        simp [hkl, hn, Cell.give_give]
      · have hn : ¬ name = n := fun h => hkl (hname.mpr h)
        simp [hkl, hn]

/-- **To set columns one after the other is to set them at once**, to what is given last. It is
possible exactly if each of them takes each value that it is given. -/
theorem setAll_eq_ok (hs : i.schema.WellFormed) (hsize : i.cells.length = i.schema.columns.length) :
    i.setAll ws = .ok j ↔
      (∀ p ∈ ws, i.schema.Permits p.1 p.2) ∧ j = i.setAtOnce (lastGiven ws) := by
  induction ws using List.reverseRecOn generalizing j with
  | nil =>
      have hnone : i.setAtOnce (lastGiven []) = i := setAtOnce_none hsize
      rw [hnone, setAll, List.foldlM_nil]
      simp [pure, Except.pure, eq_comm]
  | append_singleton ws p ih =>
      have hlast : (fun n => if p.1 = n then some p.2 else lastGiven ws n)
          = lastGiven (ws ++ [p]) := funext fun n => (lastGiven_append ws p.1 p.2 n).symm
      have hsplit : i.setAll (ws ++ [p]) = .ok j ↔
          ∃ i', i.setAll ws = .ok i' ∧ i'.set p.1 p.2 = .ok j := by
        rw [setAll, List.foldlM_append, bind_eq_ok]
        simp only [List.foldlM_cons, List.foldlM_nil, bind_pure]
        rfl
      have hpermits : (∃ j, (i.setAtOnce (lastGiven ws)).set p.1 p.2 = .ok j) ↔
        i.schema.Permits p.1 p.2 := exists_set
      rw [hsplit, List.forall_mem_append, List.forall_mem_singleton, ← hpermits, ← hlast]
      constructor
      · rintro ⟨i', hi', hset⟩
        obtain ⟨hall, rfl⟩ := ih.mp hi'
        exact ⟨⟨hall, j, hset⟩, set_setAtOnce hs hset⟩
      · rintro ⟨⟨hall, j', hset⟩, rfl⟩
        refine ⟨_, ih.mpr ⟨hall, rfl⟩, ?_⟩
        rw [← set_setAtOnce hs hset]
        exact hset

/-! ## What is left in the columns -/

theorem slots_setAtOnce (i : Instance) (given : String → Option Value) :
    (i.setAtOnce given).slots
      = i.slots.map fun slot => (slot.1, slot.2.give i.isSaved (given slot.1.1)) := by
  refine List.ext_getElem? fun k => ?_
  change (i.schema.columns.zip (i.slots.map _))[k]? = _
  rw [List.zip, List.getElem?_zipWith, List.getElem?_map, List.getElem?_map, slots, List.zip,
    List.getElem?_zipWith]
  cases i.schema.columns[k]? <;> cases i.cells[k]? <;> rfl

theorem size_setAtOnce (hsize : i.cells.length = i.schema.columns.length) :
    (i.setAtOnce given).cells.length = i.schema.columns.length := by
  change (i.slots.map _).length = _
  rw [List.length_map, slots, List.length_zip, hsize, Nat.min_self]

/-- What a column has after some were set: the value that was given, or else what it had. -/
def valueGiven (i : Instance) (given : String → Option Value) (name : String) : Option Value :=
  (given name).or (i.value? name)

theorem value?_setAtOnce (hs : i.schema.WellFormed)
    (hsize : i.cells.length = i.schema.columns.length)
    (hname : name ∈ i.schema.columns.map (·.1)) :
    (i.setAtOnce given).value? name = i.valueGiven given name := by
  obtain ⟨k, c, hk⟩ := Schema.getElem?_of_mem hname
  have hlt : k < i.cells.length := hsize ▸ (List.getElem?_eq_some_iff.mp hk).1
  have hcell := List.getElem?_eq_getElem hlt
  have hslot : i.slots[k]? = some ((name, c), i.cells[k]) :=
    List.getElem?_zip_eq_some.mpr ⟨hk, hcell⟩
  have hgiven : (i.setAtOnce given).cells[k]? = some (i.cells[k].give i.isSaved (given name)) := by
    change (i.slots.map _)[k]? = _
    rw [List.getElem?_map, hslot]
    rfl
  rw [value?_eq (i := i.setAtOnce given) hs hk, hgiven, valueGiven, value?_eq hs hk, hcell]
  rfl

/-- The columns that are dirty after some were set: those that were it before and, if the instance
is stored, those that were given a value. -/
def dirtyGiven (i : Instance) (given : String → Option Value) : List String :=
  (i.schema.columns.map (·.1)).filter fun name =>
    (i.isSaved && (given name).isSome) || i.dirtyColumns.contains name

theorem mem_dirtyColumns_iff (hs : i.schema.WellFormed) {cell : Cell}
    (hk : i.schema.columns[k]? = some (name, c)) (hcell : i.cells[k]? = some cell) :
    name ∈ i.dirtyColumns ↔ cell.isDirty = true := by
  refine ⟨fun h => ?_, mem_dirtyColumns hk hcell⟩
  obtain ⟨⟨⟨n, d⟩, cell'⟩, hslot, hdirty⟩ := List.mem_filterMap.mp h
  obtain ⟨l, hl⟩ := List.mem_iff_getElem?.mp hslot
  obtain ⟨hcolumn, hcell'⟩ := List.getElem?_zip_eq_some.mp hl
  obtain ⟨hd, heq⟩ := Option.ite_none_right_eq_some.mp hdirty
  cases heq
  -- there is one column of that name only
  have hkl : k = l := Option.some.inj ((hs.index?_eq hk).symm.trans (hs.index?_eq hcolumn))
  rw [← hkl, hcell] at hcell'
  rw [Option.some.inj hcell']
  exact hd

theorem dirtyColumns_setAtOnce (hs : i.schema.WellFormed)
    (hsize : i.cells.length = i.schema.columns.length) :
    (i.setAtOnce given).dirtyColumns = i.dirtyGiven given := by
  rw [dirtyColumns, slots_setAtOnce, List.filterMap_map, dirtyGiven, ← names_slots hsize,
    ← List.filterMap_eq_filter, List.filterMap_map]
  refine List.filterMap_congr fun slot hslot => ?_
  obtain ⟨k, hk⟩ := List.mem_iff_getElem?.mp hslot
  obtain ⟨hcolumn, hcell⟩ := List.getElem?_zip_eq_some.mp hk
  have hdirty : i.dirtyColumns.contains slot.1.1 = slot.2.isDirty := by
    rw [Bool.eq_iff_iff, List.contains_iff_mem]
    exact mem_dirtyColumns_iff hs hcolumn hcell
  simp [Cell.give, Option.guard, ← hdirty]

/-! ## What is written -/

/-- An update writes the present values of the dirty columns. -/
theorem changes_eq_dirtyColumns (hs : i.schema.WellFormed) :
    i.changes = i.dirtyColumns.map fun name => (name, (i.value? name).getD .null) := by
  rw [← names_changes, List.map_map]
  refine (List.map_id' i.changes).symm.trans (List.map_congr_left fun p hp => ?_)
  obtain ⟨k, c, cell, hcolumn, hcell, -, hvalue⟩ := slot_of_mem_changes hp
  rw [Function.comp_apply, value?_eq hs hcolumn, hcell, Option.bind_some, hvalue]

/-- An instance that is not stored is saved by a new row of its values. -/
theorem read_saveStatement_insert (he : i.entity.IsRegistered)
    (hsize : i.cells.length = i.schema.columns.length) (hsaved : i.isSaved = false) :
    ∃ s, i.saveStatement = .ok (some s) ∧
      Write.read s = some (.insert i.entity.table i.values) := by
  obtain ⟨s, hs, -⟩ := Query.exists_insertStatement (q := i.entity.all) he.wellFormed hsize rfl
  refine ⟨s, ?_, read_insert he rfl hs⟩
  rw [saveStatement, hsaved, hs]
  rfl

/-- A stored instance is saved by an update of its row, which is found by the identity it was stored
with. -/
theorem read_saveStatement_update (he : i.entity.IsRegistered) (hsaved : i.isSaved = true)
    (h : i.saveStatement = .ok (some s)) :
    ∃ key id, i.schema.identityName? = some key ∧ i.savedIdentity = some id ∧
      Write.read s = some (.update i.entity.table i.changes key id) := by
  rw [saveStatement, if_pos hsaved] at h
  obtain ⟨condition, hcondition, h⟩ := bind_eq_ok.mp h
  split at h
  · obtain ⟨s', hs', heq⟩ := map_eq_ok.mp h
    cases heq
    exact read_update he hcondition hs'
  · cases h

/-- What is left of an instance of which columns were set: what it has, what is dirty, and what is
written to save it, all in the order of the schema. -/
structure Leaves (i : Instance) (given : String → Option Value) (j : Instance) : Prop where
  entity : j.entity = i.entity
  saved : j.isSaved = i.isSaved
  identity : j.savedIdentity = i.savedIdentity
  values : ∀ name ∈ i.schema.columns.map (·.1), j.get name = .ok (i.valueGiven given name)
  dirty : j.dirtyColumns = i.dirtyGiven given
  /-- A new row gets all values. -/
  inserts : i.isSaved = false → ∃ s, j.saveStatement = .ok (some s) ∧
    Write.read s = some (.insert i.entity.table ((i.schema.columns.map (·.1)).filterMap fun name =>
      (i.valueGiven given name).map fun v => (name, v)))
  /-- A stored row gets those that are dirty. It is found by the identity it was stored with. -/
  updates : i.isSaved = true → ∀ s, j.saveStatement = .ok (some s) →
    ∃ key id, i.schema.identityName? = some key ∧ i.savedIdentity = some id ∧
      Write.read s = some (.update i.entity.table ((i.dirtyGiven given).map fun name =>
        (name, (i.valueGiven given name).getD .null)) key id)

theorem leaves_setAtOnce (he : i.entity.IsRegistered)
    (hsize : i.cells.length = i.schema.columns.length) :
    i.Leaves given (i.setAtOnce given) := by
  have hs : i.schema.WellFormed := he.wellFormed
  have hs' : (i.setAtOnce given).schema.WellFormed := hs
  have hsize' : (i.setAtOnce given).cells.length = (i.setAtOnce given).schema.columns.length :=
    size_setAtOnce hsize
  have hdirty : (i.setAtOnce given).dirtyColumns = i.dirtyGiven given :=
    dirtyColumns_setAtOnce hs hsize
  have hvalues : (i.setAtOnce given).values = (i.schema.columns.map (·.1)).filterMap fun name =>
      (i.valueGiven given name).map fun v => (name, v) := by
    rw [values_eq hs' hsize']
    exact List.filterMap_congr fun name hname => by rw [value?_setAtOnce hs hsize hname]
  have hchanges : (i.setAtOnce given).changes = (i.dirtyGiven given).map fun name =>
      (name, (i.valueGiven given name).getD .null) := by
    rw [changes_eq_dirtyColumns hs', hdirty]
    refine List.map_congr_left fun name hname => ?_
    rw [value?_setAtOnce hs hsize (List.mem_filter.mp hname).1]
  refine ⟨rfl, rfl, rfl, fun name hname => ?_, hdirty, fun hsaved => ?_, fun hsaved s h => ?_⟩
  · rw [← value?_setAtOnce hs hsize hname]
    exact get_of_mem hs' hname
  · rw [← hvalues]
    exact read_saveStatement_insert (i := i.setAtOnce given) he hsize' hsaved
  · rw [← hchanges]
    exact read_saveStatement_update (i := i.setAtOnce given) he hsaved h

end Instance

/-- **The order of assignments does not matter**, whether an instance is stored or not. Two
sequences that give each column the same value last, or both none, leave the same instance. It is
saved by one statement, which is read off the values that were given last and what the instance was
before. New instances with different columns set in any order are the same, too. -/
theorem assignments_commute [Pool σ] (he : e.IsRegistered) :
    (∀ i ws ws' j j', Instance.Arises σ i → i.entity = e → i.setAll ws = .ok j →
      i.setAll ws' = .ok j' → (∀ name, lastGiven ws name = lastGiven ws' name) →
        j = j' ∧ i.Leaves (lastGiven ws) j ∧
          ∀ c : Client (Recorded σ), Conducts c j.saveStatement (Instance.save.conduct j' c)) ∧
    ∀ values values', (values.map (·.1)).Nodup → values.Perm values' →
      (∀ p ∈ values, e.schema.Permits p.1 p.2) →
        ∃ j, Instance.create e values = .ok j ∧ Instance.create e values' = .ok j ∧
          (Instance.new e).Leaves (lastGiven values) j := by
  constructor
  · rintro i ws ws' j j' hi rfl hj hj' hlast
    have hsize := (Instance.isConsistent_of_arises hi).size
    obtain ⟨-, rfl⟩ := (Instance.setAll_eq_ok he.wellFormed hsize).mp hj
    obtain ⟨-, rfl⟩ := (Instance.setAll_eq_ok he.wellFormed hsize).mp hj'
    rw [← funext hlast]
    exact ⟨rfl, Instance.leaves_setAtOnce he hsize, Instance.conducts_save _⟩
  · intro values values' hnodup hperm hpermits
    have hsize := (Instance.isConsistent_new e).size
    have hmade : ∀ ws, ws.Perm values →
        Instance.create e ws = .ok ((Instance.new e).setAtOnce (lastGiven values)) := by
      intro ws hws
      have hlast := lastGiven_perm ((hws.map _).nodup_iff.mpr hnodup) hws
      have hall : ∀ p ∈ ws, e.schema.Permits p.1 p.2 := fun p hp =>
        hpermits p (hws.mem_iff.mp hp)
      rw [← hlast]
      exact (Instance.setAll_eq_ok (i := .new e) he.wellFormed hsize).mpr ⟨hall, rfl⟩
    exact ⟨_, hmade values (.refl _), hmade values' hperm.symm,
      Instance.leaves_setAtOnce he hsize⟩

/-- A stored task that is renumbered while its score is set once or twice, and a new one. -/
theorem assignments_commute_tasks :
    let loaded := Instance.ofRecord Entity.tasks ⟨[("id", .int 1), ("score", .int 5)]⟩
    let ws := [("score", .int 6), ("id", .int 2), ("score", .int 7)]
    let ws' := [("score", .int 7), ("id", .int 2)]
    (∃ j, loaded.setAll ws = .ok j ∧ loaded.setAll ws' = .ok j ∧
      j.savedIdentity = some (.int 1) ∧ j.dirtyColumns = ["id", "score"] ∧
      ∃ s, j.saveStatement = .ok (some s) ∧ Write.read s = some
        (.update "tasks" [("id", .int 2), ("score", .int 7)] "id" (.int 1))) ∧
    ∃ j, Instance.create Entity.tasks ws' = .ok j ∧
      Instance.create Entity.tasks ws'.reverse = .ok j ∧ j.get "id" = .ok (some (.int 2)) := by
  intro loaded ws ws'
  obtain ⟨hset, hcreate⟩ := @assignments_commute ScriptedPool _ _ Entity.tasks_isRegistered
  constructor
  · have hj : loaded.setAll ws = .ok (loaded.setAtOnce (lastGiven ws)) := rfl
    have hj' : loaded.setAll ws' = .ok (loaded.setAtOnce (lastGiven ws')) := rfl
    have hlast : ∀ name, lastGiven ws name = lastGiven ws' name := by
      intro name
      by_cases hscore : "score" = name
      · rw [← hscore]
        rfl
      · simp [lastGiven, ws, ws', hscore, List.find?_cons]
    obtain ⟨heq, hleaves, -⟩ := hset loaded ws ws' _ _ (.loaded _ _) rfl hj hj' hlast
    obtain ⟨s, hs⟩ : ∃ s, (loaded.setAtOnce (lastGiven ws)).saveStatement = .ok (some s) :=
      ⟨_, rfl⟩
    obtain ⟨key, id, hkey, hid, hread⟩ := hleaves.updates rfl s hs
    cases hkey
    cases hid
    exact ⟨_, hj, heq ▸ hj', hleaves.identity, hleaves.dirty, s, hs, hread⟩
  · have hpermits : ∀ p ∈ ws', Entity.tasks.schema.Permits p.1 p.2 := by
      intro p hp
      rcases List.mem_pair.mp hp with rfl | rfl
      · exact ⟨_, rfl, rfl, rfl⟩
      · exact ⟨_, rfl, rfl, rfl⟩
    obtain ⟨j, hj, hj', hleaves⟩ := hcreate ws' _ (by decide) (List.reverse_perm ws').symm hpermits
    exact ⟨j, hj, hj', hleaves.values "id" (by decide)⟩

end EntityMapper
