import EntityMapper.Proofs.Tracking
import Mathlib.Data.List.Nodup

/-!
# Names on the way through the server

Names go into statements without quotes, so the server reads their capitals as small letters and
reports columns under the names that it has read. A row that comes back is put into the columns of
exactly those names. So a column whose name has a capital never gets its value back, and if no
column has one, every value and the identity come back: `names_survive` says both.
-/

namespace EntityMapper

/-- The name under which the server reports a column. -/
def Sql.reportedName (name : String) : String := String.ofList (name.toList.map Char.toLower)

/-- A row with one value for each column, under the names that the server reports, in any order. -/
structure Schema.Reports (s : Schema) (values : List Value) (r : Record) : Prop where
  size : values.length = s.columns.length
  fields : r.fields.Perm ((s.columns.map fun c => Sql.reportedName c.1).zip values)

/-- Whether an instance has the value of each column, and with it the identity. -/
structure Instance.HasValues (i : Instance) (values : List Value) : Prop where
  column : ∀ (k : Nat) (name : String) (c : Column) (v : Value),
    i.schema.columns[k]? = some (name, c) → values[k]? = some v → i.get name = .ok (some v)
  identity : i.savedIdentity = i.schema.identity.bind fun k => values[k]?

variable {e : Entity} {s : Schema} {values : List Value} {r : Record} {k : Nat} {name : String}
  {c : Column} {v : Value}

/-! ## Reported names -/

theorem toLower_toLower (c : Char) : c.toLower.toLower = c.toLower := by
  have hsmall : ∀ d : Char, ¬ (d.val ≥ 'A'.val ∧ d.val ≤ 'Z'.val) → d.toLower = d :=
    fun d hd => dif_neg hd
  by_cases h : c.val ≥ 'A'.val ∧ c.val ≤ 'Z'.val
  · refine hsmall _ ?_
    have hlarge : c.toLower = ⟨c.val + ('a'.val - 'A'.val), _⟩ := dif_pos h
    rw [hlarge]
    rintro ⟨-, hup⟩
    have hA : 65 ≤ c.val := h.1
    have hZ : c.val ≤ 90 := h.2
    change c.val + 32 ≤ 90 at hup
    grind
  · rw [hsmall c h, hsmall c h]

theorem Sql.reportedName_reportedName (name : String) :
    reportedName (reportedName name) = reportedName name := by
  rw [reportedName, reportedName, String.toList_ofList, List.map_map]
  congr 1
  exact List.map_congr_left fun c _ => toLower_toLower c

namespace Schema.Reports

theorem columns_perm (h : s.Reports values r) :
    r.columns.Perm (s.columns.map fun c => Sql.reportedName c.1) := by
  have hnames := h.fields.map (·.1)
  have hsize : (s.columns.map fun c => Sql.reportedName c.1).length = values.length :=
    (List.length_map ..).trans h.size.symm
  rw [List.map_fst_zip (Nat.le_of_eq hsize)] at hnames
  exact hnames

/-- No name that the server reports has a capital. -/
theorem not_mem_columns (h : s.Reports values r) (hname : Sql.reportedName name ≠ name) :
    name ∉ r.columns := by
  intro hmem
  obtain ⟨c, -, rfl⟩ := List.mem_map.mp (h.columns_perm.mem_iff.mp hmem)
  exact hname (Sql.reportedName_reportedName c.1)

theorem mem_fields (h : s.Reports values r) (hk : s.columns[k]? = some (name, c))
    (hv : values[k]? = some v) : (Sql.reportedName name, v) ∈ r.fields := by
  rw [h.fields.mem_iff]
  refine List.mem_of_getElem? (List.getElem?_zip_eq_some.mpr ⟨?_, hv⟩ : _[k]? = _)
  rw [List.getElem?_map, hk]
  rfl

end Schema.Reports

/-- In a record without repeated names, a field is found by its name. -/
theorem Record.get?_of_mem (hr : r.columns.Nodup) (h : (name, v) ∈ r.fields) :
    r.get? name = some v := by
  obtain ⟨p, hp⟩ := Option.isSome_iff_exists.mp
    (List.find?_isSome.mpr ⟨(name, v), h, beq_self_eq_true name⟩ :
      (r.fields.find? (·.1 == name)).isSome)
  have hname : p.1 = name := by simpa using List.find?_some hp
  have hsame : p = (name, v) := List.inj_on_of_nodup_map hr (List.mem_of_find?_eq_some hp) h hname
  change (r.fields.find? (·.1 == name)).map (·.2) = some v
  rw [hp, hsame]
  rfl

/-! ## Columns of a loaded instance -/

theorem get_ofRecord (he : e.IsRegistered) (hk : e.schema.columns[k]? = some (name, c))
    (r : Record) :
    (Instance.ofRecord e r).get name = .ok (Row.empty.overlay (e.schema.known r) name) := by
  have hsize : (Instance.ofRecord e r).cells.length = e.schema.columns.length :=
    ((List.length_map ..).trans (length_merge ..)).trans (List.length_map ..)
  have hmerged : Holds e.schema.columns (Instance.ofRecord e r).cells _ :=
    Holds.persisted (holds_merged he.wellFormed r)
  exact get_of_holds he.wellFormed hsize hmerged hk

/-- A column with a capital in its name gets no value. -/
theorem get_of_capital (he : e.IsRegistered) (h : e.schema.Reports values r)
    (hk : e.schema.columns[k]? = some (name, c)) (hname : Sql.reportedName name ≠ name) :
    (Instance.ofRecord e r).get name = .ok none := by
  rw [get_ofRecord he hk, Row.overlay_of_not_mem]
  · rfl
  · intro hmem
    obtain ⟨p, hp, rfl⟩ := List.mem_map.mp hmem
    exact h.not_mem_columns hname (List.mem_map.mpr ⟨p, (List.mem_filter.mp hp).1, rfl⟩)

/-- If no name has a capital, a loaded instance has every value. -/
theorem hasValues_ofRecord (he : e.IsRegistered) (h : e.schema.Reports values r)
    (hnames : ∀ c ∈ e.schema.columns, Sql.reportedName c.1 = c.1) :
    (Instance.ofRecord e r).HasValues values := by
  have hs := he.wellFormed
  have hsame : (e.schema.columns.map fun c => Sql.reportedName c.1) = e.schema.columns.map (·.1) :=
    List.map_congr_left hnames
  have hdistinct : r.columns.Nodup := by
    rw [h.columns_perm.nodup_iff, hsame]
    exact hs.columns.distinct
  -- the row behind the instance has the value under the column's own name
  have hrow : ∀ (k : Nat) (name : String) (c : Column) (v : Value),
      e.schema.columns[k]? = some (name, c) → values[k]? = some v →
        e.schema.restrict r name = some v := by
    intro k name c v hk hv
    have hfield := h.mem_fields hk hv
    rw [hnames _ (List.mem_of_getElem? hk)] at hfield
    rw [Schema.restrict, hs.index?_eq hk]
    exact Record.get?_of_mem hdistinct hfield
  refine ⟨fun k name c v hk hv => ?_, ?_⟩
  · rw [get_ofRecord he hk, Schema.overlay_known hdistinct]
    exact congrArg Except.ok (hrow k name c v hk hv)
  · obtain ⟨row, hshadow, -, hidentity⟩ := (tracks_loaded he hdistinct).stored rfl
    cases hshadow
    change _ = e.schema.identity.bind _
    rw [hidentity, Schema.identityName?]
    cases hindex : e.schema.identity with
    | none => rfl
    | some k =>
        have hlt : k < e.schema.columns.length := hs.identity k hindex
        have hk := List.getElem?_eq_getElem hlt
        have hv := List.getElem?_eq_getElem (h.size ▸ hlt : k < values.length)
        rw [Option.bind_some, hk, Option.bind_some, hv]
        exact hrow k _ _ _ hk hv

/-- **Values survive the way through the server exactly if no column has a capital in its name.**
Then every loaded instance has the value of each column and the identity. Otherwise the columns that
have one stay without a value, whatever the row holds. -/
theorem names_survive (he : e.IsRegistered) :
    ((∀ values r, e.schema.Reports values r → (Instance.ofRecord e r).HasValues values) ↔
      ∀ c ∈ e.schema.columns, Sql.reportedName c.1 = c.1) ∧
    ∀ values r, e.schema.Reports values r → ∀ c ∈ e.schema.columns,
      Sql.reportedName c.1 ≠ c.1 → (Instance.ofRecord e r).get c.1 = .ok none := by
  refine ⟨⟨fun h c hc => ?_, fun hnames values r h => hasValues_ofRecord he h hnames⟩, ?_⟩
  · -- a row of NULLs has a value for the column, but no field of its name
    obtain ⟨k, hk⟩ := List.mem_iff_getElem?.mp hc
    by_contra hname
    have hreports : e.schema.Reports (List.replicate e.schema.columns.length .null)
        ⟨(e.schema.columns.map fun c => Sql.reportedName c.1).zip
          (List.replicate e.schema.columns.length .null)⟩ := ⟨List.length_replicate .., .refl _⟩
    have hnull : (List.replicate e.schema.columns.length Value.null)[k]? = some .null := by
      rw [List.getElem?_replicate, if_pos (List.getElem?_eq_some_iff.mp hk).1]
    have hvalue := (h _ _ hreports).column k c.1 c.2 .null hk hnull
    rw [get_of_capital he hreports hk hname] at hvalue
    cases hvalue
  · intro values r h c hc hname
    obtain ⟨k, hk⟩ := List.mem_iff_getElem?.mp hc
    exact get_of_capital he h hk hname

/-- A row of tasks, with its fields the other way round. -/
theorem names_survive_tasks :
    (Instance.ofRecord Entity.tasks ⟨[("score", .int 5), ("id", .int 1)]⟩).HasValues
      [.int 1, .int 5] := by
  have hnames : ∀ c ∈ Entity.tasks.schema.columns, Sql.reportedName c.1 = c.1 := by decide
  refine (names_survive Entity.tasks_isRegistered).1.mpr hnames _ _ ⟨rfl, ?_⟩
  exact .swap _ _ _

/-- An entity whose generated identity has a capital in its name. -/
def Entity.items : Entity :=
  ⟨⟨0, 0⟩, ⟨"Item", "items", [("Id", Column.serial.bind "items" "Id" none),
    ("label", Column.text.bind "items" "label" none)], some 0⟩⟩

/-- The identity is lost: it comes back under a name that no column has. -/
theorem capital_loses_identity :
    ∃ r, Entity.items.IsRegistered ∧ Entity.items.schema.Reports [.int 7, .text "lamp"] r ∧
      (Instance.ofRecord Entity.items r).get "Id" = .ok none ∧
      (Instance.ofRecord Entity.items r).savedIdentity = none := by
  refine ⟨⟨[("id", .int 7), ("label", .text "lamp")]⟩, ?_, ⟨rfl, ?_⟩, rfl, rfl⟩
  · exact ⟨⟨"Item", some "items", [("Id", .serial), ("label", .text)], none⟩, rfl⟩
  · exact .refl _

end EntityMapper
