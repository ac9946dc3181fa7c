import EntityMapper.Proofs.Watching
import EntityMapper.Proofs.Writes

/-!
# The row behind an instance

What the database holds of an instance is followed by a shadow: a row that starts as the record that
was loaded and changes only as the statements that succeeded say. It is computed from the exchanges
with the pool alone, so that the instance's own account of itself can be held against it.
-/

namespace EntityMapper

open Sql

/-! ## Rows -/

/-- A row: the value of each column that has one. -/
abbrev Row := String → Option Value

namespace Row

/-- The row without values. -/
def empty : Row := fun _ => none

/-- The row after a column is written. -/
def put (row : Row) (p : String × Value) : Row :=
  fun name => if name = p.1 then some p.2 else row name

/-- The row after columns are written in order. -/
def overlay (row : Row) (ps : List (String × Value)) : Row := ps.foldl put row

theorem overlay_of_not_mem {ps : List (String × Value)} {name : String}
    (h : name ∉ ps.map (·.1)) (row : Row) : row.overlay ps name = row name := by
  induction ps generalizing row with
  | nil => rfl
  | cons p ps ih =>
      rw [List.map_cons, List.mem_cons, not_or] at h
      change (row.put p).overlay ps name = _
      rw [ih h.2, put, if_neg h.1]

theorem overlay_append (row : Row) (ps qs : List (String × Value)) :
    row.overlay (ps ++ qs) = (row.overlay ps).overlay qs := List.foldl_append

end Row

namespace Schema

/-- The fields of a record that are columns. -/
def known (s : Schema) (r : Record) : List (String × Value) :=
  r.fields.filter fun field => (s.index? field.1).isSome

/-- A record as a row, without what is no column. -/
def restrict (s : Schema) (r : Record) : Row :=
  fun name => if (s.index? name).isSome then r.get? name else none

/-- Writing the known ones of fields with different names takes each over. -/
theorem overlay_filter (s : Schema) {fields : List (String × Value)}
    (h : (fields.map (·.1)).Nodup) (row : Row) {name : String} (hname : (s.index? name).isSome) :
    row.overlay (fields.filter fun field => (s.index? field.1).isSome) name
      = ((fields.find? fun (n, _) => n == name).map (·.2)).or (row name) := by
  induction fields generalizing row with
  | nil => rfl
  | cons p fields ih =>
      obtain ⟨hfresh, hrest⟩ := List.nodup_cons.mp h
      by_cases hp : p.1 = name
      · -- the field itself: none of those behind it has its name
        have hnone : name ∉ (fields.filter fun field => (s.index? field.1).isSome).map (·.1) := by
          intro hmem
          obtain ⟨q, hq, hqname⟩ := List.mem_map.mp hmem
          exact hfresh (List.mem_map.mpr ⟨q, (List.mem_filter.mp hq).1, hqname.trans hp.symm⟩)
        rw [List.filter_cons_of_pos (by rw [hp]; exact hname),
          List.find?_cons_of_pos (by simp [hp])]
        change (row.put p).overlay _ name = _
        rw [Row.overlay_of_not_mem hnone, Row.put, if_pos hp.symm]
        rfl
      · -- another field: it is written elsewhere or not at all
        rw [List.find?_cons_of_neg (by simpa using hp)]
        by_cases hknown : (s.index? p.1).isSome
        · rw [List.filter_cons_of_pos (by exact hknown)]
          change (row.put p).overlay _ name = _
          rw [ih hrest, Row.put, if_neg (Ne.symm hp)]
        · rw [List.filter_cons_of_neg (by exact hknown), ih hrest]

/-- Where no name occurs twice, writing a record's columns one after the other gives the record. -/
theorem overlay_known {s : Schema} {r : Record} (h : r.columns.Nodup) :
    Row.empty.overlay (s.known r) = s.restrict r := by
  funext name
  by_cases hname : (s.index? name).isSome
  · rw [known, overlay_filter s h _ hname, restrict, if_pos hname, Record.get?, Row.empty,
      Option.or_none]
  · rw [restrict, if_neg hname, Row.overlay_of_not_mem]
    · rfl
    · intro hmem
      obtain ⟨p, hp, rfl⟩ := List.mem_map.mp hmem
      exact hname (List.mem_filter.mp hp).2

end Schema

/-- The row behind an instance, if there is one, after an exchange. A new row is what was stored and
then given back; only what succeeds changes anything. -/
def shadowAfter (s : Schema) (shadow : Option Row) (x : Exchange) : Option Row :=
  match x.answer, Write.read x.statement with
  | .ok rows, some (.insert _ values) =>
    some ((Row.empty.overlay values).overlay (match rows.head? with
      | some r => s.known r
      | none => []))
  | .ok _, some (.update _ assigned _ _) => shadow.map (·.overlay assigned)
  | .ok _, some (.delete ..) => none
  | _, _ => shadow

section

variable {s : Schema} {shadow : Option Row} {statement : Statement} {table key : String}
  {id : Value} {ps : List (String × Value)}

theorem shadowAfter_insert (h : Write.read statement = some (.insert table ps))
    (rows : List Record) : shadowAfter s shadow ⟨statement, .ok rows⟩
      = some ((Row.empty.overlay ps).overlay (match rows.head? with
        | some r => s.known r
        | none => [])) := by
  rw [shadowAfter, h]

theorem shadowAfter_update (h : Write.read statement = some (.update table ps key id))
    (rows : List Record) :
    shadowAfter s shadow ⟨statement, .ok rows⟩ = shadow.map (·.overlay ps) := by
  rw [shadowAfter, h]

theorem shadowAfter_delete (h : Write.read statement = some (.delete table key id))
    (rows : List Record) : shadowAfter s shadow ⟨statement, .ok rows⟩ = none := by
  rw [shadowAfter, h]

end

/-! ## Cells and rows -/

/-- What is taken from the cells of columns by `g`, under the columns' names. -/
def picked (g : Cell → Option Value) (columns : List (String × Column)) (cells : List Cell) :
    List (String × Value) :=
  (columns.zip cells).filterMap fun ((name, _), cell) => (g cell).map fun v => (name, v)

theorem names_picked_subset (g : Cell → Option Value) (columns : List (String × Column))
    (cells : List Cell) {name : String} (h : name ∈ (picked g columns cells).map (·.1)) :
    name ∈ columns.map (·.1) := by
  obtain ⟨p, hp, rfl⟩ := List.mem_map.mp h
  obtain ⟨⟨⟨n, c⟩, cell⟩, hslot, hpick⟩ := List.mem_filterMap.mp hp
  obtain ⟨v, -, rfl⟩ := Option.map_eq_some_iff.mp hpick
  exact List.mem_map.mpr ⟨_, (List.of_mem_zip hslot).1, rfl⟩

variable {columns : List (String × Column)} {cells : List Cell} {row : Row}

/-- Writing what is picked changes the columns that something is picked from. -/
theorem overlay_picked {g : Cell → Option Value} (hd : (columns.map (·.1)).Nodup) {k : Nat}
    {name : String} {c : Column} {cell : Cell} (hk : columns[k]? = some (name, c))
    (hcell : cells[k]? = some cell) :
    row.overlay (picked g columns cells) name = (g cell).or (row name) := by
  induction columns generalizing cells row k with
  | nil => cases hk
  | cons p columns ih =>
      obtain ⟨n, c₀⟩ := p
      cases cells with
      | nil => cases hcell
      | cons cell₀ cells =>
          obtain ⟨hfresh, hrest⟩ := List.nodup_cons.mp hd
          have hcons : picked g ((n, c₀) :: columns) (cell₀ :: cells)
              = ((g cell₀).map fun v => (n, v)).toList ++ picked g columns cells := by
            cases hg : g cell₀ <;> simp [picked, hg]
          rw [hcons, Row.overlay_append]
          cases k with
          | zero =>
              -- this column: what is picked behind it has other names
              cases hk
              cases hcell
              rw [Row.overlay_of_not_mem fun h => hfresh (names_picked_subset g columns cells h)]
              cases g cell with
              | none => rfl
              | some v => exact if_pos rfl
          | succ k =>
              -- a later column, whose name is not this one
              have hmem : name ∈ columns.map (·.1) :=
                List.mem_map.mpr ⟨_, List.mem_of_getElem? hk, rfl⟩
              have hne : name ≠ n := fun h => hfresh (h ▸ hmem)
              rw [ih hrest hk hcell, Row.overlay_of_not_mem]
              cases g cell₀ <;> simp [hne]

end EntityMapper
