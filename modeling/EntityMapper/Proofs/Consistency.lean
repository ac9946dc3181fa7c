import EntityMapper.Proofs.Tracking

/-!
# What holds of an instance at any time

The parts of an instance are kept by hand: a cell for each column, the flags of the dirty ones,
whether the row is stored, and the identity it was stored with. `IsConsistent` says how they fit
together. It holds of an instance however it came about, and every action keeps it, whatever the
pool answers, although what the pool gives back is not checked: it is never dirty.
-/

namespace EntityMapper

variable {σ α β : Type} {i j : Instance} {name : String} {v : Value}

namespace Instance

/-- The parts of an instance fit together. -/
structure IsConsistent (i : Instance) : Prop where
  size : i.cells.length = i.schema.columns.length
  /-- Without a stored row nothing differs from it, and it has no identity. -/
  unsaved : i.isSaved = false → i.isDirty = false ∧ i.savedIdentity = none
  /-- A stored row has the present identity, unless that is to be written first. -/
  identity : i.isSaved = true → ∀ (k : Nat) (cell : Cell), i.schema.identity = some k →
    i.cells[k]? = some cell → cell.isDirty = false → i.savedIdentity = cell.value
  unidentified : i.schema.identity = none → i.savedIdentity = none
  /-- What is to be written was accepted. -/
  accepted : ∀ (k : Nat) (name : String) (c : Column) (cell : Cell),
    i.schema.columns[k]? = some (name, c) → i.cells[k]? = some cell → cell.isDirty = true →
      ∃ v, cell.value = some v ∧ c.type.accepts v = true ∧ c.passes v = true

theorem isDirty_eq_false : i.isDirty = false ↔ ∀ cell ∈ i.cells, cell.isDirty = false := by
  rw [isDirty, List.any_eq_false]
  simp only [Bool.not_eq_true]

/-! ## Nothing is dirty -/

theorem isConsistent_of_unsaved (hsize : i.cells.length = i.schema.columns.length)
    (hsaved : i.isSaved = false) (hdirty : i.isDirty = false) (hnone : i.savedIdentity = none) :
    i.IsConsistent := by
  refine ⟨hsize, fun _ => ⟨hdirty, hnone⟩, fun h => ?_, fun _ => hnone, ?_⟩
  · rw [hsaved] at h
    cases h
  · intro k name c cell _ hcell hd
    rw [isDirty_eq_false.mp hdirty cell (List.mem_of_getElem? hcell)] at hd
    cases hd

theorem isConsistent_new (e : Entity) : (new e).IsConsistent := by
  refine isConsistent_of_unsaved (List.length_map ..) rfl (isDirty_eq_false.mpr ?_) rfl
  intro cell hcell
  obtain ⟨p, -, rfl⟩ := List.mem_map.mp hcell
  rfl

theorem isConsistent_deleted (h : i.IsConsistent) : i.deleted.IsConsistent := by
  refine isConsistent_of_unsaved ((List.length_map ..).trans h.size) rfl
    (isDirty_eq_false.mpr ?_) rfl
  intro cell hcell
  obtain ⟨cell', -, rfl⟩ := List.mem_map.mp hcell
  rfl

/-- **An instance is consistent right after it was stored**, whatever its cells hold. -/
theorem isConsistent_persisted (h : i.cells.length = i.schema.columns.length) :
    i.persisted.IsConsistent := by
  refine ⟨(List.length_map ..).trans h, fun h => (by cases h), ?_, ?_, ?_⟩
  · intro _ k cell hk hcell _
    obtain ⟨old, hold, rfl⟩ := cell_of_persisted hcell
    change i.identityValue? = old.value
    rw [identityValue?, show i.schema.identity = some k from hk, Option.bind_some, hold,
      Option.bind_some]
  · intro hnone
    change i.identityValue? = none
    rw [identityValue?, show i.schema.identity = none from hnone, Option.bind_none]
  · intro k name c cell _ hcell hdirty
    obtain ⟨old, -, rfl⟩ := cell_of_persisted hcell
    cases hdirty

theorem isConsistent_ofRecord (e : Entity) (r : Record) : (ofRecord e r).IsConsistent := by
  refine isConsistent_persisted ?_
  exact (length_merge ..).trans (List.length_map ..)

theorem isConsistent_stored (h : i.IsConsistent) (rows : List Record) :
    (i.stored rows).IsConsistent := by
  unfold stored
  cases rows.head? with
  | none => exact isConsistent_persisted h.size
  | some r => exact isConsistent_persisted ((length_merge ..).trans h.size)

/-! ## Setting a column -/

theorem isConsistent_set (h : i.IsConsistent) (hset : i.set name v = .ok j) :
    j.IsConsistent := by
  obtain ⟨k, c, hk, haccepts, hpasses, rfl⟩ := set_eq_ok hset
  refine ⟨(List.length_modify ..).trans h.size, fun hsaved => ⟨?_, ?_⟩, ?_, ?_, ?_⟩
  · rw [isDirty_eq_false]
    intro cell hcell
    have hclean := isDirty_eq_false.mp (h.unsaved hsaved).1
    obtain ⟨l, hl⟩ := List.mem_iff_getElem?.mp hcell
    rcases cell_of_modify hl with ⟨-, old, hold, rfl⟩ | ⟨-, hold⟩
    · change i.isSaved = false at hsaved
      simp [hsaved, hclean old (List.mem_of_getElem? hold)]
    · exact hclean cell (List.mem_of_getElem? hold)
  · exact (h.unsaved hsaved).2
  · intro hsaved l cell hl hcell hdirty
    rcases cell_of_modify hcell with ⟨-, old, -, rfl⟩ | ⟨-, hold⟩
    · -- the identity itself is set, so it is dirty now
      change i.isSaved = true at hsaved
      simp [hsaved] at hdirty
    · exact h.identity hsaved l cell hl hold hdirty
  · exact h.unidentified
  · intro l name' c' cell hl hcell hdirty
    rcases cell_of_modify hcell with ⟨rfl, old, -, rfl⟩ | ⟨-, hold⟩
    · obtain ⟨-, rfl⟩ := Prod.mk.inj (Option.some.inj (hk.symm.trans hl))
      exact ⟨v, rfl, haccepts, hpasses⟩
    · exact h.accepted l name' c' cell hl hold hdirty

theorem isConsistent_create {e : Entity} {values : List (String × Value)}
    (h : create e values = .ok i) : i.IsConsistent :=
  foldlM_keeps (fun _ _ _ hb hset => isConsistent_set hb hset) (isConsistent_new e) h

/-! ## Runs -/

/-- **Every step keeps an instance consistent.** -/
theorem isConsistent_step (h : i.IsConsistent) {a : Action} {p : Performed} (hp : i.Step a p) :
    p.left.IsConsistent := by
  cases hp with
  | refused a => exact h
  | assigned hset => exact isConsistent_set h hset
  | unchanged hsaved hdirty => exact h
  | failed e hsends => exact h
  | answered rows hsends =>
      cases hsends with
      | insert hs => exact isConsistent_stored h rows
      | first hsaved hs => exact isConsistent_stored h rows
      | update hsaved hcondition hs => exact isConsistent_persisted h.size
      | delete hsaved hcondition hs => exact isConsistent_deleted h

/-- The instances that a program can have. A client may have been used for anything between two
actions, so each finds the pool in any state. -/
inductive Arises (σ : Type) [Pool σ] : Instance → Prop where
  | new (e : Entity) : Arises σ (new e)
  | created {e : Entity} {values : List (String × Value)} {i : Instance}
    (h : create e values = .ok i) : Arises σ i
  | loaded (e : Entity) (r : Record) : Arises σ (ofRecord e r)
  /-- It is one of the rows that were read. -/
  | fetched {q : Query} {c : Client σ} {found : List Instance}
    (h : (effect q.fetch c).1 = .ok found) {i : Instance} (hi : i ∈ found) : Arises σ i
  | fetchedOne {q : Query} {c : Client σ} {i : Instance}
    (h : (effect q.fetchOne c).1 = .ok (some i)) : Arises σ i
  /-- It is what an action, failed or not, leaves of one. -/
  | acted {i : Instance} (h : Arises σ i) (a : Action) (c : Client σ) :
    Arises σ (effect a.run (i, c)).2.1

end Instance

theorem effect_bind_eq_ok {S : Type} {m : ExceptT Error (StateM S) α}
    {f : α → ExceptT Error (StateM S) β} {s : S} {b : β} (h : (effect (m >>= f) s).1 = .ok b) :
    ∃ a s', effect m s = (.ok a, s') ∧ (effect (f a) s').1 = .ok b := by
  rw [effect_bind] at h
  rcases hm : effect m s with ⟨out, s'⟩
  rw [hm] at h
  cases out with
  | error e => cases h
  | ok a => exact ⟨a, s', rfl, h⟩

theorem Query.fetch_ok [Pool σ] {q : Query} {c : Client σ} {found : List Instance}
    (h : (effect q.fetch c).1 = .ok found) :
    ∀ i ∈ found, ∃ r, i = Instance.ofRecord q.entity r := by
  obtain ⟨s, c', -, h⟩ := effect_bind_eq_ok h
  obtain ⟨records, c', -, h⟩ := effect_bind_eq_ok h
  cases h
  intro i hi
  obtain ⟨r, -, rfl⟩ := List.mem_map.mp hi
  exact ⟨r, rfl⟩

theorem Query.fetchOne_ok [Pool σ] {q : Query} {c : Client σ} {i : Instance}
    (h : (effect q.fetchOne c).1 = .ok (some i)) : ∃ r, i = Instance.ofRecord q.entity r := by
  obtain ⟨s, c', -, h⟩ := effect_bind_eq_ok h
  obtain ⟨record, c', -, h⟩ := effect_bind_eq_ok h
  obtain ⟨r, -, rfl⟩ := Option.map_eq_some_iff.mp (Except.ok.inj h)
  exact ⟨r, rfl⟩

/-- **The parts of an instance always fit together**: however it came about, whatever was done to
it, and whatever the pool answered. -/
theorem Instance.isConsistent_of_arises [Pool σ] (h : Arises σ i) : i.IsConsistent := by
  induction h with
  | new e => exact isConsistent_new e
  | created h => exact isConsistent_create h
  | loaded e r => exact isConsistent_ofRecord e r
  | fetched h hi =>
      obtain ⟨r, rfl⟩ := Query.fetch_ok h _ hi
      exact isConsistent_ofRecord _ r
  | fetchedOne h =>
      obtain ⟨r, rfl⟩ := Query.fetchOne_ok h
      exact isConsistent_ofRecord _ r
  | acted _ a c ih =>
      rw [Action.left_run]
      exact isConsistent_step ih (step_perform a _ c)

/-- A row that is renamed but not yet written: its stored identity is not the present one. -/
theorem Instance.isConsistent_of_arises_rename :
    let loaded := ofRecord Entity.tasks ⟨[("id", .int 1), ("score", .int 5)]⟩
    let c := Client.connect 0 {} ({ failure := some "connection reset" } : ScriptedPool)
    let renamed := (effect (Action.set "id" (.int 2)).run (loaded, c)).2.1
    let left := (effect Action.save.run (renamed, c)).2.1
    left.IsConsistent ∧ left.dirtyColumns = ["id"] ∧ left.savedIdentity = some (.int 1) := by
  intro loaded c renamed left
  have hleft : Arises ScriptedPool left := .acted (.acted (.loaded _ _) _ c) .save c
  exact ⟨isConsistent_of_arises hleft, rfl, rfl⟩

end EntityMapper
