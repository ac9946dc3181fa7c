import EntityMapper.Instance
import EntityMapper.Proofs.Expressions

/-!
# What registration guarantees

Everything that is built for an entity relies on a few facts about its schema: all names are
identifiers, no two columns share one, every column is bound to the table under its own name, and
the identity is one of the columns. Registration is the only way to a schema, and
`wellFormed_of_ofShape` is what it establishes.
-/

namespace EntityMapper

theorem bind_eq_ok {ε α β : Type} {x : Except ε α} {f : α → Except ε β} {b : β} :
    x >>= f = .ok b ↔ ∃ a, x = .ok a ∧ f a = .ok b := by
  cases x <;> simp [bind, Except.bind]

theorem map_eq_ok {ε α β : Type} {x : Except ε α} {f : α → β} {b : β} :
    x.map f = .ok b ↔ ∃ a, x = .ok a ∧ f a = b := by
  cases x <;> simp [Except.map]

/-- A property that every step of a fold keeps holds at its end. -/
theorem foldlM_keeps {ε α β : Type} {f : β → α → Except ε β} {P : β → Prop}
    (hstep : ∀ b a b', P b → f b a = .ok b' → P b') {l : List α} {b b' : β} (hb : P b)
    (h : l.foldlM f b = .ok b') : P b' := by
  induction l generalizing b with
  | nil => cases h; exact hb
  | cons a l ih =>
      rw [List.foldlM_cons, bind_eq_ok] at h
      obtain ⟨c, hc, h⟩ := h
      exact ih (hstep _ _ _ hb hc) h

/-- Identifiers, and nothing else, pass the check of names. -/
theorem Sql.checkIdentifier_eq_ok {named : Sql.Named} {name : String} :
    Sql.checkIdentifier named name = .ok () ↔ Sql.isIdentifier name = true := by
  constructor
  · intro h
    unfold Sql.checkIdentifier at h
    split at h
    · cases h
    · split at h
      · cases h
      · split at h
        · assumption
        · cases h
  · intro h
    obtain ⟨c, rest, hs, -, hall⟩ := Sql.isIdentifierChars_cons h
    have hnul : name.toList.any (·.toNat == 0) = false := by
      rw [List.any_eq_false]
      intro d hd heq
      have hd' := hall d hd
      have : d = Char.ofNat 0 := by
        apply Char.ext
        apply UInt32.toNat.inj
        simpa using heq
      rw [this] at hd'
      exact absurd hd' (by decide)
    simp [Sql.checkIdentifier, hnul, h, show name.toList ≠ [] by rw [hs]; simp]

namespace Schema

/-- Columns as they are once they belong to a table: named by different identifiers and bound. -/
structure ColumnsOf (table : String) (columns : List (String × Column)) : Prop where
  named : ∀ c ∈ columns, Sql.isIdentifier c.1 = true
  bound : ∀ c ∈ columns, c.2.binding = some ⟨table, c.1⟩
  distinct : (columns.map (·.1)).Nodup

/-- A schema as registration makes it. -/
structure WellFormed (s : Schema) : Prop where
  table : Sql.isIdentifier s.table = true
  columns : ColumnsOf s.table s.columns
  identity : ∀ k ∈ s.identity, k < s.columns.length

theorem addColumn_columnsOf {entity table : String} {bound bound' : List (String × Column)}
    {declared : String × Column} (hb : ColumnsOf table bound)
    (h : addColumn entity table bound declared = .ok bound') : ColumnsOf table bound' := by
  unfold addColumn at h
  rw [bind_eq_ok] at h
  obtain ⟨_, hname, h⟩ := h
  split at h
  · cases h
  · rename_i hnew
    rw [bind_eq_ok] at h
    obtain ⟨_, -, h⟩ := h
    cases h
    have hfresh : ∀ c ∈ bound, c.1 ≠ declared.1 := by
      intro c hc heq
      exact hnew (List.any_eq_true.mpr ⟨c, hc, by simpa using heq⟩)
    -- the new column was checked, and the others are what they were
    refine ⟨?_, ?_, ?_⟩
    · intro c hc
      rcases List.mem_append.mp hc with hc | hc
      · exact hb.named c hc
      · rw [List.mem_singleton.mp hc]
        exact Sql.checkIdentifier_eq_ok.mp hname
    · intro c hc
      rcases List.mem_append.mp hc with hc | hc
      · exact hb.bound c hc
      · rw [List.mem_singleton.mp hc]
        rfl
    · rw [List.map_append, List.nodup_append]
      refine ⟨hb.distinct, by simp, ?_⟩
      intro name hname other hother
      obtain ⟨c, hc, rfl⟩ := List.mem_map.mp hname
      rw [List.mem_singleton.mp hother]
      exact hfresh c hc

theorem identityIn_lt {entity : String} {columns : List (String × Column)} {named : Option String}
    {identity : Option Nat} (h : identityIn entity columns named = .ok identity) :
    ∀ k ∈ identity, k < columns.length := by
  intro k hk
  cases hk
  unfold identityIn at h
  split at h
  · split at h
    · rename_i index hindex
      cases h
      exact (List.findIdx?_eq_some_iff_findIdx_eq.mp hindex).1
    · cases h
  · split at h
    · cases h
    · rename_i hflagged
      cases h
      have hmem : k ∈ flaggedIn columns := by rw [hflagged]; simp
      obtain ⟨⟨c, i⟩, hc, rfl⟩ := List.mem_map.mp hmem
      have hlt := (List.mem_zipIdx (List.mem_filter.mp hc).1).2.1
      omega
    · cases h

/-- **A registered schema is well formed.** -/
theorem wellFormed_of_ofShape {shape : Shape} {s : Schema} (h : ofShape shape = .ok s) :
    s.WellFormed := by
  unfold ofShape at h
  rw [bind_eq_ok] at h
  obtain ⟨_, htable, h⟩ := h
  rw [bind_eq_ok] at h
  obtain ⟨columns, hcolumns, h⟩ := h
  rw [bind_eq_ok] at h
  obtain ⟨identity, hidentity, h⟩ := h
  cases h
  have hnil : ColumnsOf shape.tableName [] := ⟨by simp, by simp, List.nodup_nil⟩
  exact ⟨Sql.checkIdentifier_eq_ok.mp htable,
    foldlM_keeps (fun _ _ _ => addColumn_columnsOf) hnil hcolumns, identityIn_lt hidentity⟩

variable {s : Schema} {name : String} {c : Column}

/-- A column that is found by its name is one of the columns, under that name. -/
theorem mem_columns_of_column (h : s.column name = .ok c) : (name, c) ∈ s.columns := by
  unfold column at h
  split at h
  · rename_i c' hc
    cases h
    obtain ⟨index, hindex, hget⟩ := Option.bind_eq_some_iff.mp hc
    obtain ⟨p, hp, rfl⟩ := Option.map_eq_some_iff.mp hget
    obtain ⟨hlt, hname, -⟩ := List.findIdx?_eq_some_iff_getElem.mp hindex
    rw [List.getElem?_eq_getElem hlt] at hp
    have heq : s.columns[index].1 = name := by simpa using hname
    rw [Option.some.inj hp] at heq
    rw [← heq, ← Option.some.inj hp]
    exact List.getElem_mem hlt
  · cases h

end Schema

/-- Whether an entity was registered. -/
def Entity.IsRegistered (e : Entity) : Prop := ∃ shape, Schema.ofShape shape = .ok e.schema

theorem Entity.IsRegistered.wellFormed {e : Entity} (h : e.IsRegistered) : e.schema.WellFormed :=
  let ⟨_, hs⟩ := h
  Schema.wellFormed_of_ofShape hs

/-- The names of what an instance of a registered entity stores are identifiers. -/
theorem Entity.IsRegistered.isIdentifier_values {i : Instance} (h : i.entity.IsRegistered) :
    ∀ p ∈ i.values, Sql.isIdentifier p.1 = true := by
  intro p hp
  obtain ⟨⟨⟨name, c⟩, cell⟩, hslot, hvalue⟩ := List.mem_filterMap.mp hp
  obtain ⟨v, -, rfl⟩ := Option.map_eq_some_iff.mp hvalue
  exact h.wellFormed.columns.named _ (List.of_mem_zip hslot).1

/-- The shape of an entity with a generated identity and a number. -/
def Shape.tasks : Shape := ⟨"Task", some "tasks", [("id", .serial), ("score", .integer)], none⟩

/-- An entity of that shape, the first one of the first client. -/
def Entity.tasks : Entity :=
  ⟨⟨0, 0⟩, ⟨"Task", "tasks", [("id", Column.serial.bind "tasks" "id" none),
    ("score", Column.integer.bind "tasks" "score" none)], some 0⟩⟩

theorem Entity.tasks_isRegistered : Entity.tasks.IsRegistered := ⟨.tasks, rfl⟩

end EntityMapper
