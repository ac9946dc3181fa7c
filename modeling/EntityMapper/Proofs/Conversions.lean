import EntityMapper.Proofs.Inserting

/-!
# Records and instances

A record becomes an instance by name, and an instance becomes a record in the order of its schema.
One way and back, a record keeps what it says of columns, and the other way and back an instance
keeps all its values and counts as stored: `conversions_lossless` says so of every record that can
be made and of every instance that a program can have.
-/

namespace EntityMapper

variable {σ : Type} {e : Entity} {i : Instance} {r : Record} {name : String}

/-! ## From a record to an instance -/

theorem Schema.isSome_index? {s : Schema} :
    (s.index? name).isSome = true ↔ name ∈ s.columns.map (·.1) := by
  rw [Option.isSome_iff_ne_none, index?, ne_eq, indexIn_eq_none, not_not]

/-- The values of a loaded instance are those of the record. -/
theorem value?_ofRecord (he : e.IsRegistered) (hr : r.columns.Nodup)
    (hname : name ∈ e.schema.columns.map (·.1)) :
    (Instance.ofRecord e r).value? name = r.get? name := by
  obtain ⟨k, c, hk⟩ := Schema.getElem?_of_mem hname
  rw [Instance.value?, get_ofRecord he hk, Schema.overlay_known hr, Schema.restrict,
    he.wellFormed.index?_eq hk]
  rfl

/-! ## From an instance to a record -/

namespace Instance

theorem get_of_not_mem (h : name ∉ i.schema.columns.map (·.1)) :
    i.get name = .error (.unknownColumn i.entity.name name) := by
  rw [get, index, Schema.index?, (Schema.indexIn_eq_none ..).mpr h]
  rfl

theorem fields_toRecord (hs : i.schema.WellFormed)
    (hsize : i.cells.length = i.schema.columns.length) : i.toRecord.fields = i.values := by
  refine Record.fields_ofList ?_
  rw [names_values hs hsize]
  exact hs.columns.distinct.filter _

theorem nodup_columns_toRecord (i : Instance) : i.toRecord.columns.Nodup :=
  Record.nodup_columns_ofList i.values

theorem get?_toRecord (hs : i.schema.WellFormed)
    (hsize : i.cells.length = i.schema.columns.length)
    (hname : name ∈ i.schema.columns.map (·.1)) : i.toRecord.get? name = i.value? name := by
  refine Option.ext fun v => ?_
  rw [Record.get?_eq_some_iff i.nodup_columns_toRecord, fields_toRecord hs hsize,
    mem_values hs hsize, and_iff_right hname]

end Instance

/-! ## There and back -/

/-- **A record comes back with its columns only, and in their order.** -/
theorem toRecord_ofRecord (he : e.IsRegistered) (hr : r.columns.Nodup) :
    (Instance.ofRecord e r).toRecord.fields.Perm (e.schema.known r) ∧
      (Instance.ofRecord e r).toRecord.columns.Sublist (e.schema.columns.map (·.1)) := by
  have hs : (Instance.ofRecord e r).schema.WellFormed := he.wellFormed
  have hsize := (Instance.isConsistent_ofRecord e r).size
  have hfields := Instance.fields_toRecord hs hsize
  constructor
  · have hback : (Instance.ofRecord e r).toRecord.fields.Nodup :=
      List.Nodup.of_map _ (Instance.nodup_columns_toRecord _)
    have hknown : (e.schema.known r).Nodup := (List.Nodup.of_map _ hr).filter _
    rw [List.perm_ext_iff_of_nodup hback hknown]
    rintro ⟨name, v⟩
    rw [hfields, Instance.mem_values hs hsize, Schema.known, List.mem_filter,
      Schema.isSome_index?, ← Record.get?_eq_some_iff hr, and_comm]
    exact and_congr_left fun hname => by rw [value?_ofRecord he hr hname]
  · rw [Record.columns, hfields, Instance.names_values hs hsize]
    exact List.filter_sublist

namespace Instance

/-- What an instance is as a stored row: nothing is dirty and its identity is the present one. -/
structure IsStoredCopy (i j : Instance) : Prop where
  entity : j.entity = i.entity
  values : ∀ name, j.get name = i.get name
  saved : j.isSaved = true
  clean : j.isDirty = false
  identity : j.savedIdentity = i.identityValue?

/-- **An instance comes back with what it has in every column.** -/
theorem get_ofRecord_toRecord (hs : i.entity.IsRegistered) (h : i.IsConsistent) (name : String) :
    (ofRecord i.entity i.toRecord).get name = i.get name := by
  by_cases hname : name ∈ i.schema.columns.map (·.1)
  · have hs' : (ofRecord i.entity i.toRecord).schema.WellFormed := hs.wellFormed
    rw [get_of_mem hs' hname, get_of_mem hs.wellFormed hname,
      value?_ofRecord hs i.nodup_columns_toRecord hname, get?_toRecord hs.wellFormed h.size hname]
  · -- neither has such a column
    rw [get_of_not_mem hname]
    exact get_of_not_mem hname

theorem isStoredCopy_ofRecord (hs : i.entity.IsRegistered) (h : i.IsConsistent) :
    i.IsStoredCopy (ofRecord i.entity i.toRecord) where
  entity := rfl
  values := get_ofRecord_toRecord hs h
  saved := rfl
  clean := isDirty_persisted _
  identity := by
    have hvalue : (ofRecord i.entity i.toRecord).value? = i.value? := funext fun name => by
      rw [value?, value?, get_ofRecord_toRecord hs h]
    have hsize := (length_merge i.schema
      (i.schema.columns.map fun _ => ⟨none, false⟩) i.toRecord.fields).trans (List.length_map ..)
    rw [identityValue?_eq hs.wellFormed h.size, ← hvalue]
    exact savedIdentity_persisted hs.wellFormed hsize

end Instance

/-- **Records and instances become each other without loss.** A record has each name that was given
to it once, where it was given first, with the value that was given last. It comes back from an
instance with just the columns of the entity, in the order of the schema, and every instance that a
program can have comes back from its record as a stored row with the same values. -/
theorem conversions_lossless [Pool σ] :
    (∀ given r, Record.Builds given r →
      r.columns.Nodup ∧ r.columns = (given.map (·.1)).eraseDups ∧
        ∀ name, r.get? name = lastGiven given name) ∧
    (∀ e given r, e.IsRegistered → Record.Builds given r →
      (Instance.ofRecord e r).toRecord.fields.Perm (e.schema.known r) ∧
        (Instance.ofRecord e r).toRecord.columns.Sublist (e.schema.columns.map (·.1))) ∧
    ∀ i, Instance.Arises σ i → i.entity.IsRegistered →
      i.IsStoredCopy (.ofRecord i.entity i.toRecord) := by
  refine ⟨fun given r hr => ?_, fun e given r he hr => ?_, fun i hi he => ?_⟩
  · rw [hr.eq_ofList]
    exact ⟨Record.nodup_columns_ofList given, Record.columns_ofList given,
      Record.get?_ofList given⟩
  · refine toRecord_ofRecord he ?_
    rw [hr.eq_ofList]
    exact Record.nodup_columns_ofList given
  · exact Instance.isStoredCopy_ofRecord he (Instance.isConsistent_of_arises hi)

/-- A name that is given twice, a field that is no column, and a task that is renamed after it was
loaded: as a stored row its identity is the new one. -/
theorem conversions_lossless_tasks :
    let given := [("score", .int 5), ("note", .text "x"), ("id", .int 1)]
    let r := (Record.ofList given).push "score" (.int 7)
    let renamed := (effect (Action.set "id" (.int 2)).run
      (.ofRecord Entity.tasks r, Client.connect 0 {} ({} : ScriptedPool))).2.1
    Record.Builds (given ++ [("score", .int 7)]) r ∧ r.columns = ["score", "note", "id"] ∧
      r.get? "score" = some (.int 7) ∧
      (Instance.ofRecord Entity.tasks r).toRecord.columns.Sublist ["id", "score"] ∧
      renamed.IsStoredCopy (.ofRecord Entity.tasks renamed.toRecord) ∧
      renamed.savedIdentity = some (.int 1) ∧ renamed.identityValue? = some (.int 2) := by
  intro given r renamed
  have hr : Record.Builds (given ++ [("score", .int 7)]) r := .pushed (.collected given) _ _
  have hi : Instance.Arises ScriptedPool renamed := .acted (.loaded _ _) _ _
  obtain ⟨hmade, hback, hcopy⟩ := @conversions_lossless ScriptedPool _
  exact ⟨hr, (hmade _ r hr).2.1, (hmade _ r hr).2.2 "score",
    (hback _ _ r Entity.tasks_isRegistered hr).2, hcopy renamed hi Entity.tasks_isRegistered,
    rfl, rfl⟩

end EntityMapper
