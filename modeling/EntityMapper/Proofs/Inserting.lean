import EntityMapper.Proofs.Acceptance
import EntityMapper.Proofs.Clients
import EntityMapper.Proofs.Placeholders
import EntityMapper.Proofs.Records
import EntityMapper.Proofs.Saving
import Mathlib.Data.List.Basic

/-!
# Storing a new row

Storing an instance is done in two steps that have to fit: a statement is rendered from the columns
that have a value, and what the database gives back is taken over. Whether a row is asked back is
decided in both, from the identity. `IsInsertedBy` says what the statement is, `Takes` what the
instance is afterwards, and `insert_writes_and_takes` that storing an instance is just that.
-/

namespace EntityMapper

open Sql (Statement Template placeholder)
open InstanceM

variable {σ : Type} {i : Instance} {q : Query} {s : Statement} {r : Record} {row : Row} {k : Nat}
  {name : String} {c : Column}

/-! ## Values by name -/

namespace Instance

/-- The value of a column, if there is such a column and it has one. -/
def value? (i : Instance) (name : String) : Option Value := (i.get name).toOption.join

/-- The columns that have a value, in the order of the schema. -/
def valued (i : Instance) : List String :=
  (i.schema.columns.map (·.1)).filter fun name => (i.value? name).isSome

theorem get_of_mem (hs : i.schema.WellFormed) (hname : name ∈ i.schema.columns.map (·.1)) :
    i.get name = .ok (i.value? name) := by
  obtain ⟨k, c, hk⟩ := Schema.getElem?_of_mem hname
  rw [value?, get_eq hs hk]
  rfl

theorem value?_eq (hs : i.schema.WellFormed) (hk : i.schema.columns[k]? = some (name, c)) :
    i.value? name = i.cells[k]?.bind (·.value) := by
  rw [value?, get_eq hs hk]
  rfl

theorem holds_value? (hs : i.schema.WellFormed) : Holds i.schema.columns i.cells i.value? := by
  intro k name c cell hk hcell
  rw [value?_eq hs hk, hcell]
  rfl

/-- The values of a row that the cells hold are the values of the columns. -/
theorem value?_of_holds (hs : i.schema.WellFormed)
    (hsize : i.cells.length = i.schema.columns.length) (h : Holds i.schema.columns i.cells row)
    (hname : name ∈ i.schema.columns.map (·.1)) : i.value? name = row name := by
  obtain ⟨k, c, hk⟩ := Schema.getElem?_of_mem hname
  rw [value?, get_of_holds hs hsize h hk]
  rfl

theorem names_slots (hsize : i.cells.length = i.schema.columns.length) :
    i.slots.map (·.1.1) = i.schema.columns.map (·.1) := by
  have hfirst : i.slots.map (·.1) = i.schema.columns := List.map_fst_zip (Nat.le_of_eq hsize.symm)
  calc i.slots.map (·.1.1)
      = (i.slots.map (·.1)).map (·.1) := List.map_map.symm
    _ = i.schema.columns.map (·.1) := by rw [hfirst]

/-- What is stored is picked by name, column by column. -/
theorem values_eq (hs : i.schema.WellFormed) (hsize : i.cells.length = i.schema.columns.length) :
    i.values = (i.schema.columns.map (·.1)).filterMap fun name =>
      (i.value? name).map fun v => (name, v) := by
  rw [← names_slots hsize, List.filterMap_map, values]
  refine List.filterMap_congr fun slot hslot => ?_
  obtain ⟨k, hk⟩ := List.mem_iff_getElem?.mp hslot
  obtain ⟨hcolumn, hcell⟩ := List.getElem?_zip_eq_some.mp hk
  rw [Function.comp_apply, value?_eq hs hcolumn, hcell]
  rfl

theorem names_values (hs : i.schema.WellFormed)
    (hsize : i.cells.length = i.schema.columns.length) : i.values.map (·.1) = i.valued := by
  rw [values_eq hs hsize, List.map_filterMap, valued, ← List.filterMap_eq_filter]
  refine List.filterMap_congr fun name _ => ?_
  cases hv : i.value? name <;> simp [Option.guard, hv]

theorem mem_values (hs : i.schema.WellFormed) (hsize : i.cells.length = i.schema.columns.length)
    {v : Value} :
    (name, v) ∈ i.values ↔ name ∈ i.schema.columns.map (·.1) ∧ i.value? name = some v := by
  rw [values_eq hs hsize, List.mem_filterMap]
  constructor
  · rintro ⟨name', hname, hvalue⟩
    obtain ⟨w, hw, heq⟩ := Option.map_eq_some_iff.mp hvalue
    cases heq
    exact ⟨hname, hw⟩
  · rintro ⟨hname, hvalue⟩
    exact ⟨name, hname, by rw [hvalue]; rfl⟩

/-- The identity of the cells is the value of the identity column. -/
theorem identityValue?_eq (hs : i.schema.WellFormed)
    (hsize : i.cells.length = i.schema.columns.length) :
    i.identityValue? = i.schema.identityName?.bind i.value? :=
  identityValue_of_holds rfl hsize (holds_value? hs)

/-! ## The statement -/

/-- Whether there is an identity column that has no value. -/
def lacksIdentity (i : Instance) : Bool :=
  i.schema.identityName?.any fun key => (i.value? key).isNone

end Instance

namespace Sql

/-- The columns of a new row, with one placeholder for each. -/
def rowText (columns : List String) : String :=
  if columns.isEmpty then " DEFAULT VALUES"
  else " (" ++ String.intercalate "," columns ++ ") VALUES (" ++
    String.intercalate "," ((List.range' 1 columns.length).map placeholder) ++ ")"

/-- The statement that stores a new row with values for some columns. -/
def insertText (table : String) (columns : List String) (returning : Bool) : String :=
  "INSERT INTO " ++ table ++ rowText columns ++ (if returning then " RETURNING *" else "")

theorem Template.texts_values (k : Nat) (vs : List Value) :
    Template.texts k (vs.map fun v => [.value v])
      = (List.range' (k + 1) vs.length).map placeholder := by
  induction vs generalizing k with
  | nil => rfl
  | cons v vs ih =>
      change Template.text k [.value v] :: Template.texts (k + 1) _ = _
      rw [Template.text_value, ih]
      rfl

/-- No row ends in an asterisk. -/
theorem exists_rowText_last (columns : List String) :
    ∃ before last, (rowText columns).toList = before ++ [last] ∧ last ≠ '*' := by
  unfold rowText
  split
  · exact ⟨" DEFAULT VALUE".toList, 'S', rfl, by decide⟩
  · rw [String.toList_append]
    exact ⟨_, ')', rfl, by decide⟩

/-- **A row is asked back exactly if the text ends in the clause for it.** -/
theorem returning_suffix_iff (table : String) (columns : List String) (returning : Bool) :
    " RETURNING *".toList <:+ (insertText table columns returning).toList ↔ returning = true := by
  cases returning with
  | true =>
      rw [insertText, if_pos rfl, String.toList_append]
      exact iff_of_true (List.suffix_append ..) rfl
  | false =>
      refine iff_of_false ?_ Bool.false_ne_true
      rintro ⟨start, hstart⟩
      obtain ⟨before, last, hrow, hlast⟩ := exists_rowText_last columns
      have hclause : " RETURNING *".toList = " RETURNING ".toList ++ ['*'] := rfl
      rw [insertText, if_neg Bool.false_ne_true, String.append_empty, String.toList_append, hrow,
        hclause, ← List.append_assoc, ← List.append_assoc] at hstart
      exact hlast (List.singleton_inj.mp (List.append_inj' hstart rfl).2).symm

end Sql

namespace Query

/-- The clause that asks the row back. -/
def returningTemplate (returning : Bool) : Template :=
  if returning then [.text " RETURNING *"] else []

theorem text_returningTemplate (k : Nat) (returning : Bool) :
    (returningTemplate returning).text k = if returning then " RETURNING *" else "" := by
  cases returning with
  | false => rfl
  | true => exact (Template.text_cons k " RETURNING *" []).trans (String.append_empty ..)

theorem values_returningTemplate (returning : Bool) :
    (returningTemplate returning).values = [] := by
  cases returning <;> rfl

theorem text_rowTemplate (values : List (String × Value)) :
    (rowTemplate values).text 0 = Sql.rowText (values.map (·.1)) := by
  unfold rowTemplate Sql.rowText
  rw [List.isEmpty_map]
  split
  · rfl
  · have hopen : ") VALUES (" = ") VALUES " ++ "(" := rfl
    have hitems : values.map (fun p => [Sql.Fragment.value p.2])
        = (values.map (·.2)).map fun v => [Sql.Fragment.value v] := by
      rw [List.map_map]
      rfl
    change Template.text 0 (.text _ ::
      (Template.joined "," (values.map fun p => [Sql.Fragment.value p.2])).parenthesized) = _
    rw [Template.text_cons, Template.parenthesized, List.cons_append, Template.text_cons,
      Template.text_append, hitems, Template.text_joined, Template.texts_values, List.length_map,
      List.length_map, hopen]
    simp only [String.append_assoc]
    rfl

end Query

namespace Instance

/-- Whether a statement stores an instance: it names the columns that have a value, has a parameter
for each that is its value, and asks the row back if the identity is missing. -/
structure IsInsertedBy (i : Instance) (s : Statement) : Prop where
  text : s.sql = Sql.insertText i.entity.table i.valued i.lacksIdentity
  params : i.valued.map i.value? = s.params.map some
  returning : " RETURNING *".toList <:+ s.sql.toList ↔
    ∃ key, i.schema.identityName? = some key ∧ i.get key = .ok none

theorem mem_of_identityName? {key : String} (h : i.schema.identityName? = some key) :
    key ∈ i.schema.columns.map (·.1) := by
  obtain ⟨k, -, hk⟩ := Option.bind_eq_some_iff.mp h
  obtain ⟨p, hp, rfl⟩ := Option.map_eq_some_iff.mp hk
  exact List.mem_map.mpr ⟨p, List.mem_of_getElem? hp, rfl⟩

theorem lacksIdentity_iff (hs : i.schema.WellFormed) : i.lacksIdentity = true ↔
    ∃ key, i.schema.identityName? = some key ∧ i.get key = .ok none := by
  unfold lacksIdentity
  cases hkey : i.schema.identityName? with
  | none => simp
  | some key =>
      have hget := get_of_mem hs (mem_of_identityName? hkey)
      simp [hget]

end Instance

/-- **The row is asked back exactly if the identity is missing.** -/
theorem Query.returnsGenerated_eq (hs : i.schema.WellFormed) (hq : i.entity = q.entity) :
    q.returnsGenerated i = i.lacksIdentity := by
  have hschema : q.entity.schema = i.schema := congrArg Entity.schema hq.symm
  rw [returnsGenerated, hschema, Instance.lacksIdentity, Schema.identityName?]
  cases hidentity : i.schema.identity with
  | none => rfl
  | some k =>
      have hlt := hs.identity k hidentity
      have hk : i.schema.columns[k]? = some (i.schema.columns[k].1, i.schema.columns[k].2) :=
        List.getElem?_eq_getElem hlt
      have hvalue := Instance.value?_eq hs hk
      rw [Option.bind_some, hk]
      change _ = (i.value? _).isNone
      rw [hvalue]

/-- **An instance of the query's entity has its statement.** -/
theorem Query.exists_insertStatement (hs : i.schema.WellFormed)
    (hsize : i.cells.length = i.schema.columns.length) (hq : i.entity = q.entity) :
    ∃ s, q.insertStatement i = .ok s ∧ i.IsInsertedBy s := by
  have hsame : q.entity.same i.entity = true := by
    rw [hq]
    exact beq_self_eq_true q.entity.registration
  have hstatement : q.insertStatement i = .ok (Template.statement
      (.text ("INSERT INTO " ++ i.entity.table) :: (rowTemplate i.values ++
        returningTemplate i.lacksIdentity))) := by
    rw [insertStatement_eq, insertTemplate, if_pos hsame, returnsGenerated_eq hs hq, hq]
    rfl
  have hsql : Template.text 0 (.text ("INSERT INTO " ++ i.entity.table) ::
      (rowTemplate i.values ++ returningTemplate i.lacksIdentity))
        = Sql.insertText i.entity.table i.valued i.lacksIdentity := by
    rw [Template.text_cons, Template.text_append, text_rowTemplate, text_returningTemplate,
      Instance.names_values hs hsize, Sql.insertText]
    exact (String.append_assoc ..).symm
  refine ⟨_, hstatement, hsql, ?_, ?_⟩
  · change _ = (Template.values
      (rowTemplate i.values ++ returningTemplate i.lacksIdentity)).map some
    rw [Template.values_append, values_row, values_returningTemplate, List.append_nil,
      ← Instance.names_values hs hsize, List.map_map, List.map_map]
    exact List.map_congr_left fun p hp => ((Instance.mem_values hs hsize).mp hp).2
  · change _ <:+ (Template.text 0 _).toList ↔ _
    rw [hsql, Sql.returning_suffix_iff, Instance.lacksIdentity_iff hs]

/-! ## What comes back -/

/-- The last value of a name. -/
def Record.last? (r : Record) (name : String) : Option Value :=
  (r.fields.reverse.find? fun field => field.1 == name).map (·.2)

/-- A name has a last value exactly if a field has it. -/
theorem Record.exists_last? : (∃ v, r.last? name = some v) ↔ name ∈ r.columns := by
  rw [← Option.isSome_iff_exists, last?, Option.isSome_map, List.find?_isSome, columns,
    List.mem_map]
  simp only [List.mem_reverse, beq_iff_eq]

/-- Where no name occurs twice, the last value of a name is the first. -/
theorem Record.get?_of_last? {v : Value} (hr : r.columns.Nodup) (h : r.last? name = some v) :
    r.get? name = some v := by
  obtain ⟨⟨n, w⟩, hfound, rfl⟩ := Option.map_eq_some_iff.mp h
  have hname : n = name := by simpa using List.find?_some hfound
  rw [← hname]
  exact get?_of_mem hr (List.mem_reverse.mp (List.mem_of_find?_eq_some hfound))

/-- Of what is written to a column, the last value stays. -/
theorem Row.overlay_eq_or (row : Row) (ps : List (String × Value)) (name : String) :
    row.overlay ps name = (lastGiven ps name).or (row name) := by
  induction ps using List.reverseRecOn with
  | nil => rfl
  | append_singleton ps p ih =>
      rw [overlay_append, lastGiven_append]
      change (row.overlay ps).put p name = _
      rw [put, ih]
      by_cases hp : p.1 = name
      · rw [if_pos hp.symm, if_pos hp, Option.some_or]
      · rw [if_neg (Ne.symm hp), if_neg hp]

/-- What a record says of a column is taken over, although what is no column is left out. -/
theorem Schema.overlay_known_eq_or {s : Schema} (hname : (s.index? name).isSome) :
    row.overlay (s.known r) name = (r.last? name).or (row name) := by
  have hknown : ∀ p : String × Value,
      decide ((s.index? p.1).isSome = true ∧ (p.1 == name) = true) = (p.1 == name) := by
    intro p
    by_cases hp : p.1 = name
    · simp [hp, hname]
    · simp [hp]
  rw [Row.overlay_eq_or, lastGiven, known, ← List.filter_reverse, List.find?_filter, funext hknown]
  rfl

namespace Instance

/-- What an instance `j` is once `i` was stored and a row came back, or none did. -/
structure Takes (i j : Instance) (row : Option Record) : Prop where
  entity : j.entity = i.entity
  saved : j.isSaved = true
  clean : j.dirtyColumns = []
  taken : ∀ r, row = some r → ∀ name ∈ i.schema.columns.map (·.1), name ∈ r.columns →
    ∃ v, r.last? name = some v ∧ (r.columns.Nodup → r.get? name = some v) ∧
      j.get name = .ok (some v)
  kept : ∀ name ∈ i.schema.columns.map (·.1), (∀ r, row = some r → name ∉ r.columns) →
    j.get name = i.get name
  identity : j.savedIdentity = j.schema.identityName?.bind j.value?

theorem value?_persisted (i : Instance) (name : String) :
    i.persisted.value? name = i.value? name := by
  have hindex : i.persisted.index name = i.index name := rfl
  rw [value?, value?, get, get, hindex]
  cases i.index name with
  | error e => rfl
  | ok k =>
      change (i.cells.map fun cell : Cell => { cell with isDirty := false })[k]?.bind Cell.value
        = i.cells[k]?.bind Cell.value
      rw [List.getElem?_map]
      cases i.cells[k]? <;> rfl

theorem value?_merge (hs : i.schema.WellFormed) (hsize : i.cells.length = i.schema.columns.length)
    (r : Record) (hname : name ∈ i.schema.columns.map (·.1)) :
    (i.merge r).value? name = (r.last? name).or (i.value? name) := by
  have hmerged : Holds i.schema.columns (i.merge r).cells
      (Row.overlay i.value? (i.schema.known r)) := (holds_value? hs).merge hs r.fields
  have hknown : (i.schema.index? name).isSome := by
    rw [Schema.index?, ← Option.ne_none_iff_isSome, Ne, Schema.indexIn_eq_none]
    exact not_not_intro hname
  rw [value?_of_holds (i := i.merge r) hs ((length_merge ..).trans hsize) hmerged hname,
    Schema.overlay_known_eq_or hknown]

/-- The values of an instance that was stored. -/
theorem value?_stored (hs : i.schema.WellFormed) (hsize : i.cells.length = i.schema.columns.length)
    (rows : List Record) (hname : name ∈ i.schema.columns.map (·.1)) :
    (i.stored rows).value? name = (rows.head?.bind (·.last? name)).or (i.value? name) := by
  unfold stored
  cases rows.head? with
  | none => exact value?_persisted i name
  | some r => exact (value?_persisted (i.merge r) name).trans (value?_merge hs hsize r hname)

theorem savedIdentity_persisted (hs : i.schema.WellFormed)
    (hsize : i.cells.length = i.schema.columns.length) :
    i.persisted.savedIdentity = i.persisted.schema.identityName?.bind i.persisted.value? := by
  rw [funext (value?_persisted i)]
  exact identityValue?_eq hs hsize

/-- **Storing takes over the row that came back, and nothing else.** -/
theorem takes_stored (hs : i.schema.WellFormed) (hsize : i.cells.length = i.schema.columns.length)
    (rows : List Record) : i.Takes (i.stored rows) rows.head? := by
  obtain ⟨hsaved, hclean⟩ := settled_stored i rows
  have hentity : (i.stored rows).entity = i.entity := by
    unfold stored
    split <;> rfl
  have hschema : (i.stored rows).schema = i.schema := congrArg Entity.schema hentity
  have hget : ∀ name ∈ i.schema.columns.map (·.1),
      (i.stored rows).get name = .ok ((rows.head?.bind (·.last? name)).or (i.value? name)) := by
    intro name hname
    rw [get_of_mem (hschema ▸ hs) (hschema ▸ hname), value?_stored hs hsize rows hname]
  refine ⟨hentity, hsaved, hclean, ?_, ?_, ?_⟩
  · intro r hrow name hname hr
    obtain ⟨v, hv⟩ := Record.exists_last?.mpr hr
    refine ⟨v, hv, fun hdistinct => Record.get?_of_last? hdistinct hv, ?_⟩
    rw [hget name hname, hrow, Option.bind_some, hv]
    rfl
  · intro name hname hrow
    have hnone : rows.head?.bind (·.last? name) = none := by
      refine Option.bind_eq_none_iff.mpr fun r hr => ?_
      by_contra hlast
      exact hrow r hr (Record.exists_last?.mp (Option.ne_none_iff_exists'.mp hlast))
    rw [hget name hname, hnone, get_of_mem hs hname]
    rfl
  · unfold stored
    split
    · exact savedIdentity_persisted (i := i.merge _) hs ((length_merge ..).trans hsize)
    · exact savedIdentity_persisted hs hsize

end Instance

/-! ## What inserting does -/

section

variable [Pool σ]

/-- What a pool gives back for a statement, if it has a connection for it: the rows, if they are
asked for, and otherwise none. -/
def Client.reply (c : Client σ) (returning : Bool) (s : Statement) : Except Error (List Record) :=
  match Pool.acquire c.pool with
  | (.error e, _) => .error e
  | (.ok _, p) =>
    if returning then (Pool.fetch s p).1 else (Pool.execute s p).1.map fun _ => []

/-- **Inserting goes as its statement goes**, and changes the instance only if that succeeds. -/
theorem Query.effect_insert (hs : q.insertStatement i = .ok s) (c : Client σ) :
    (effect q.insert (i, c)).1 = (c.reply (q.returnsGenerated i) s).map (fun _ => ()) ∧
      (effect q.insert (i, c)).2.1 = match c.reply (q.returnsGenerated i) s with
        | .ok rows => i.stored rows
        | .error _ => i := by
  rw [insert, effect_current, effect_liftM_ok hs]
  cases hreturns : q.returnsGenerated i with
  | true =>
      have hfetch : (effect (Client.fetch q.entity.name .insert s) c).1 = c.reply true s :=
        Client.outcome_logged (f := Pool.fetch s) (fun _ => rfl) q.entity.name .insert s c
      rw [if_pos rfl, effect_fetchOne, effect_bind, effect_onClient, ← hfetch]
      rcases effect (Client.fetch q.entity.name .insert s) c with ⟨out, c'⟩
      cases out <;> exact ⟨rfl, rfl⟩
  | false =>
      have hexecute : (effect (Client.execute q.entity.name .insert s) c).1.map (fun _ => [])
          = c.reply false s := by
        rw [Client.outcome_execute, Client.answer, Client.reply]
        rcases Pool.acquire c.pool with ⟨out, p⟩
        cases out <;> rfl
      rw [if_neg Bool.false_ne_true, effect_bind, effect_onClient, ← hexecute]
      rcases effect (Client.execute q.entity.name .insert s) c with ⟨out, c'⟩
      cases out <;> exact ⟨rfl, rfl⟩

end

/-! ## Other registrations -/

theorem Query.insertStatement_foreign (h : q.entity.same i.entity = false) :
    q.insertStatement i = .error (q.foreignInstance i) := by
  rw [insertStatement_eq, insertTemplate, if_neg (by simp [h])]
  rfl

/-- An instance of another registration is refused before the client does anything. -/
theorem Query.effect_insert_foreign [Pool σ] (h : q.entity.same i.entity = false)
    (c : Client σ) : effect q.insert (i, c) = (.error (q.foreignInstance i), (i, c)) := by
  rw [insert, effect_current, effect_liftM_error (insertStatement_foreign h)]

/-- **An insert writes what the instance has and takes over what comes back.**

Take a query, with any filter and page, of an entity of a program. Each instance of the entity, in
any state that the program can bring it to, has its statement: the columns that have a value in the
order of the schema, a placeholder and a parameter for each, and the clause that asks the row back
exactly if there is an identity column without value. With any client, inserting the instance goes
as the pool's answer to this statement. If that is an error the instance stays as it was, and if it
is rows then the instance is stored, nothing is dirty, the columns that the first row names have its
values, all others what they had, and the identity it was stored with is that of the identity
column. An instance of any other registration of the program, be it at the same client or at
another, of the same shape or not, is refused with an error about its state before anything is
sent. -/
theorem insert_writes_and_takes [Pool σ] {clients : List (Client σ)} (h : Program σ clients)
    {k n : Nat} (hq : entityAt? clients k n = some q.entity) :
    (∀ i : Instance, i.Arises σ → i.entity = q.entity →
      ∃ s, q.insertStatement i = .ok s ∧ i.IsInsertedBy s ∧ ∀ c : Client σ,
        (effect q.insert (i, c)).1 = (c.reply i.lacksIdentity s).map (fun _ => ()) ∧
        (∀ err, c.reply i.lacksIdentity s = .error err → (effect q.insert (i, c)).2.1 = i) ∧
        ∀ rows, c.reply i.lacksIdentity s = .ok rows →
          i.Takes (effect q.insert (i, c)).2.1 rows.head?) ∧
    ∀ (i : Instance) (k' n' : Nat), entityAt? clients k' n' = some i.entity →
      (k', n') ≠ (k, n) → q.insertStatement i = .error (q.foreignInstance i) ∧
        (q.foreignInstance i).isState = true ∧
        ∀ c : Client σ, effect q.insert (i, c) = (.error (q.foreignInstance i), (i, c)) := by
  constructor
  · intro i harises hi
    have hs : i.schema.WellFormed := by
      rw [Instance.schema, hi]
      exact (h.isRegistered hq).wellFormed
    have hsize := (Instance.isConsistent_of_arises harises).size
    obtain ⟨s, hstatement, hinserted⟩ := q.exists_insertStatement hs hsize hi
    refine ⟨s, hstatement, hinserted, fun c => ?_⟩
    obtain ⟨houtcome, hleft⟩ := q.effect_insert hstatement c
    rw [q.returnsGenerated_eq hs hi] at houtcome hleft
    refine ⟨houtcome, fun err herror => ?_, fun rows hrows => ?_⟩
    · rw [hleft, herror]
    · rw [hleft, hrows]
      exact i.takes_stored hs hsize rows
  · intro i k' n' hi hother
    have hforeign : q.entity.same i.entity = false := by
      rw [← Bool.not_eq_true, h.same_iff hq hi]
      rintro ⟨rfl, rfl⟩
      exact hother rfl
    exact ⟨q.insertStatement_foreign hforeign, rfl, q.effect_insert_foreign hforeign⟩

/-- A task without identity: the row that comes back has one, and a score that the database changed.
A task of the same shape that was registered with another client is refused. -/
theorem insert_writes_and_takes_task :
    let q := Entity.tasks.all.limited 5
    let task : Instance := ⟨Entity.tasks, [⟨none, false⟩, ⟨some (.int 5), false⟩], false, none⟩
    let row : Record := ⟨[("score", .int 6), ("note", .null), ("id", .int 7)]⟩
    let pool : ScriptedPool := { replies := [.rows [row, ⟨[]⟩]] }
    let connected := [Client.connect 0 {} pool, Client.connect 1 {} pool]
    let clients := (connected.modify 0 (·.after (task, .register .tasks))).modify 1
      (·.after (task, .register .tasks))
    let again : Entity := ⟨⟨1, 0⟩, Entity.tasks.schema⟩
    let c := Client.connect 0 {} pool
    let left := (effect q.insert (task, c)).2.1
    Program ScriptedPool clients ∧ entityAt? clients 0 0 = some q.entity ∧
      entityAt? clients 1 0 = some again ∧
      (∃ s, q.insertStatement task = .ok s ∧
        s.sql = "INSERT INTO tasks (score) VALUES ($1) RETURNING *" ∧
        [some (.int 5)] = s.params.map some ∧ (effect q.insert (task, c)).1 = .ok ()) ∧
      left.isSaved = true ∧ left.get "score" = .ok (some (.int 6)) ∧
      left.savedIdentity = some (.int 7) ∧
      effect q.insert (.new again, c)
        = (.error (.state "cannot insert a Task instance into tasks"), (.new again, c)) := by
  intro q task row pool connected clients again c left
  have hprogram : Program ScriptedPool clients :=
    .ask (.ask (.connect (.connect .start {} pool) {} pool) 0 _) 1 _
  have hq : entityAt? clients 0 0 = some q.entity := rfl
  have hagain : entityAt? clients 1 0 = some again := rfl
  obtain ⟨hown, hother⟩ := insert_writes_and_takes hprogram hq
  have hcreated : Instance.create Entity.tasks [("score", .int 5)] = .ok task := rfl
  obtain ⟨s, hs, hinserted, hclient⟩ := hown task (.created hcreated) rfl
  obtain ⟨houtcome, -, htakes⟩ := hclient c
  have hreply : c.reply task.lacksIdentity s = .ok [row, ⟨[]⟩] := rfl
  have hleft := htakes _ hreply
  rw [hreply] at houtcome
  refine ⟨hprogram, hq, hagain, ⟨s, hs, hinserted.text, hinserted.params, houtcome⟩, hleft.saved,
    ?_, hleft.identity, (hother (.new again) 1 0 hagain (by decide)).2.2 c⟩
  obtain ⟨v, hv, -, hget⟩ := hleft.taken row rfl "score" (by decide) (by decide)
  cases hv
  exact hget

end EntityMapper
