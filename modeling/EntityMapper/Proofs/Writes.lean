import EntityMapper.Proofs.Statements

/-!
# What an instance's statements write

A statement that changes one row says which table it is about, which columns it writes with which
values, and by which value of which column the row is found. `Write.read` reads that off the text
and the parameters. The statements that an instance sends are read here as the writes that they
should be: all its values when it is stored, the dirty columns when it is saved, and in either case
where a row is looked for, the identity that it was stored with.
-/

namespace EntityMapper

open Sql

/-- A change of one row. -/
inductive Write where
  | insert (table : String) (values : List (String × Value))
  /-- New values in the row whose column `key` has the value `id`. -/
  | update (table : String) (assigned : List (String × Value)) (key : String) (id : Value)
  /-- The row whose column `key` has the value `id` is removed. -/
  | delete (table : String) (key : String) (id : Value)

namespace Write

/-! ## Reading -/

/-- Reads a name. -/
def readName : List Piece → Option (String × List Piece)
  | .token (.word n) :: rest => some (n, rest)
  | _ => none

/-- Reads a value. -/
def readValue : List Piece → Option (Value × List Piece)
  | .value v :: rest => some (v, rest)
  | _ => none

/-- Reads a name, an equals sign and a value. -/
def readAssignment : List Piece → Option ((String × Value) × List Piece)
  | .token (.word n) :: .token (.mark "=") :: .value v :: rest => some ((n, v), rest)
  | _ => none

/-- Reads one or more items with commas between them, at most as many as `most`. -/
def readItems {α : Type} (item : List Piece → Option (α × List Piece)) :
    Nat → List Piece → Option (List α × List Piece)
  | 0, _ => none
  | most + 1, ps => do
    let (a, rest) ← item ps
    match rest with
    | .token (.mark ",") :: rest =>
      let (as, rest) ← readItems item most rest
      return (a :: as, rest)
    | rest => return ([a], rest)

/-- Reads the columns and values of a new row. The row may be asked back. -/
def readRow (ps : List Piece) : Option (List (String × Value)) :=
  match ps with
  | .token (.word "DEFAULT") :: .token (.word "VALUES") :: rest => ending [] rest
  | .token (.mark "(") :: rest => do
    let (names, rest) ← readItems readName ps.length rest
    match rest with
    | .token (.mark ")") :: .token (.word "VALUES") :: .token (.mark "(") :: rest =>
      let (values, rest) ← readItems readValue ps.length rest
      match rest with
      | .token (.mark ")") :: rest =>
        if names.length = values.length then ending (names.zip values) rest else none
      | _ => none
    | _ => none
  | _ => none
where
  /-- The row, if nothing follows but that it is asked back. -/
  ending (row : List (String × Value)) : List Piece → Option (List (String × Value))
    | [] => some row
    | [.token (.word "RETURNING"), .token (.mark "*")] => some row
    | _ => none

/-- Reads the condition that one column of a table has a value. -/
def readKey (table : String) : List Piece → Option (String × Value)
  | [.token (.word "WHERE"), .token (.column t key), .token (.mark "="), .value id] =>
    if t = table then some (key, id) else none
  | _ => none

/-- Reads a change of one row. -/
def ofPieces (ps : List Piece) : Option Write :=
  match ps with
  | .token (.word "INSERT") :: .token (.word "INTO") :: .token (.word table) :: rest =>
    (readRow rest).map (insert table)
  | .token (.word "UPDATE") :: .token (.word table) :: .token (.word "SET") :: rest => do
    let (assigned, rest) ← readItems readAssignment ps.length rest
    let (key, id) ← readKey table rest
    return update table assigned key id
  | .token (.word "DELETE") :: .token (.word "FROM") :: .token (.word table) :: rest => do
    let (key, id) ← readKey table rest
    return delete table key id
  | _ => none

/-- The change that a statement makes, if it changes one row. -/
def read (s : Statement) : Option Write := s.pieces.bind ofPieces

/-- A list of items is read back, if it ends where no comma follows. -/
theorem readItems_listed {α : Type} {item : List Piece → Option (α × List Piece)}
    {pieces : α → List Piece} (hitem : ∀ a rest, item (pieces a ++ rest) = some (a, rest))
    {as : List α} (hne : as ≠ []) {most : Nat} (hmost : as.length ≤ most) {p : Piece}
    (hp : p ≠ .token (.mark ",")) (rest : List Piece) :
    readItems item most (listed (as.map pieces) ++ p :: rest) = some (as, p :: rest) := by
  induction as generalizing most with
  | nil => exact absurd rfl hne
  | cons a as ih =>
      cases most with
      | zero => simp at hmost
      | succ most =>
          cases as with
          | nil =>
              -- the last item: what follows is no comma
              change (item (pieces a ++ p :: rest)).bind _ = _
              rw [hitem, Option.bind_some]
              dsimp only
              split
              · rename_i heq
                exact absurd (List.cons.inj heq).1 hp
              · rfl
          | cons b as =>
              -- a comma follows, and behind it the other items
              have hrest := ih (by simp) (Nat.le_of_succ_le_succ hmost)
              change (item ((pieces a ++ .token (.mark ",") :: listed (pieces b :: as.map pieces))
                ++ p :: rest)).bind _ = _
              rw [List.append_assoc, hitem, Option.bind_some]
              change (readItems item most (listed ((b :: as).map pieces) ++ p :: rest)).bind _ = _
              rw [hrest]
              rfl

theorem readName_append (n : String) (rest : List Piece) :
    readName ([.token (.word n)] ++ rest) = some (n, rest) := rfl

theorem readValue_append (v : Value) (rest : List Piece) :
    readValue ([.value v] ++ rest) = some (v, rest) := rfl

theorem readAssignment_append (a : String × Value) (rest : List Piece) :
    readAssignment ([.token (.word a.1), .token (.mark "="), .value a.2] ++ rest)
      = some (a, rest) := rfl

theorem length_le_listed {α : Type} {f : α → List Piece} (hne : ∀ a, f a ≠ []) (as : List α) :
    as.length ≤ (listed (as.map f)).length := by
  induction as with
  | nil => exact Nat.zero_le _
  | cons a as ih =>
      have hpos := List.length_pos_iff.mpr (hne a)
      cases as with
      | nil => exact hpos
      | cons b as =>
          change _ ≤ (f a ++ .token (.mark ",") :: listed ((b :: as).map f)).length
          simp only [List.length_append, List.length_cons] at ih ⊢
          omega

/-- A row is read back. -/
theorem readRow_rowPieces (values : List (String × Value)) {rest : List Piece}
    (hrest : readRow.ending values rest = some values) :
    readRow (Query.rowPieces values ++ rest) = some values := by
  unfold Query.rowPieces
  split
  · rename_i hempty
    rw [List.isEmpty_iff.mp hempty] at hrest ⊢
    exact hrest
  · rename_i hempty
    have hne : ∀ {α : Type} (f : String × Value → α), values.map f ≠ [] := fun f h =>
      hempty (List.isEmpty_iff.mpr (List.map_eq_nil_iff.mp h))
    have hnames : (values.map fun (n, _) => [Piece.token (.word n)])
        = (values.map (·.1)).map fun n => [.token (.word n)] := by rw [List.map_map]; rfl
    have hvalues : (values.map fun (_, v) => [Piece.value v])
        = (values.map (·.2)).map fun v => [.value v] := by rw [List.map_map]; rfl
    rw [hnames, hvalues]
    simp only [List.append_assoc, List.cons_append, List.nil_append]
    unfold readRow
    simp only [Option.bind_eq_bind]
    -- a row has no more items than pieces, so none is left over
    have hlength := length_le_listed (f := fun n => [Piece.token (.word n)]) (by simp)
      (values.map (·.1))
    have hlength' := length_le_listed (f := fun v => [Piece.value v]) (by simp) (values.map (·.2))
    rw [readItems_listed readName_append (hne _) (by
      simp only [List.length_cons, List.length_append]; omega) (by simp), Option.bind_some]
    change (readItems readValue _ (listed _ ++ Piece.token (.mark ")") :: rest)).bind _ = _
    rw [readItems_listed readValue_append (hne _) (by
      simp only [List.length_cons, List.length_append]; omega) (by simp), Option.bind_some]
    change (if (values.map (·.1)).length = (values.map (·.2)).length
      then readRow.ending ((values.map (·.1)).zip (values.map (·.2))) rest else none) = _
    rw [if_pos (by simp), List.zip_map']
    simpa using hrest

/-- What is read off a statement is read off what was asked for. -/
theorem read_eq {q : Query} {r : Request} {s : Statement} (hr : r.IsNamed q)
    (h : r.statement q = .ok s) : read s = ofPieces (r.pieces q) := by
  obtain ⟨t, ht, rfl⟩ := Request.statement_eq_ok h
  have hsays := Request.says_template hr ht
  rw [read, Template.statement_pieces hsays.readable, hsays.pieces]
  rfl

end Write

namespace Instance

variable {i : Instance}

/-- **A statement that stores an instance writes all its values.** -/
theorem read_insert {q : Query} {s : Statement} (hi : i.entity.IsRegistered)
    (hq : q.entity = i.entity) (h : q.insertStatement i = .ok s) :
    Write.read s = some (.insert i.entity.table i.values) := by
  have hr : (Request.insert i).IsNamed q := by
    refine ⟨fun e he => ?_, by simp [Request.columns]⟩
    simp only [Request.entities, hq, List.mem_cons, List.not_mem_nil, or_false, or_self] at he
    rw [he]
    exact hi
  rw [Write.read_eq (r := .insert i) hr h, Request.pieces, Query.insertPieces, hq]
  change (Write.readRow (Query.rowPieces i.values ++ _)).map _ = _
  rw [Write.readRow_rowPieces]
  · rfl
  · split <;> rfl

/-- What the condition that picks the stored row is made of. -/
theorem identityFilter_ok {action : String} {condition : Expr} (hi : i.entity.IsRegistered)
    (h : i.identityFilter action = .ok condition) :
    ∃ key id type, i.schema.identityName? = some key ∧ i.savedIdentity = some id
      ∧ ColumnRef.IsNamed ⟨i.entity.table, key, type⟩
      ∧ condition = .binary (.column ⟨i.entity.table, key, type⟩) .eq (.literal id) := by
  unfold identityFilter at h
  split at h
  · cases h
  · rename_i column hcolumn
    split at h
    · cases h
    · rename_i id hid
      obtain ⟨k, hk, hget⟩ := Option.bind_eq_some_iff.mp hcolumn
      obtain ⟨⟨key, c⟩, hkey, rfl⟩ := Option.map_eq_some_iff.mp hget
      have hmem := List.mem_of_getElem? hkey
      have hnamed := hi.wellFormed.columns.named _ hmem
      change (c.toExpr >>= fun l => _) = _ at h
      rw [hi.wellFormed.toExpr_of_mem hmem] at h
      refine ⟨key, id, c.type, ?_, (Option.filter_eq_some_iff.mp hid).1,
        ⟨hi.wellFormed.table, hnamed⟩, ?_⟩
      · -- the identity's name and its column are found at one position
        rw [Schema.identityName?, hk]
        exact congrArg (Option.map Prod.fst) hkey
      · change (Expr.checkOperand _ .eq (.literal id)).map _ = _ at h
        cases hcheck : Expr.checkOperand ⟨i.entity.schema.table, key, c.type⟩ .eq (.literal id) with
        | error e => rw [hcheck] at h; cases h
        | ok u => rw [hcheck] at h; cases h; rfl

/-- A query for a row by its identity asks for named columns only. -/
theorem isNamed_key {e : Entity} (he : e.IsRegistered) {c : ColumnRef} (hc : c.IsNamed)
    (id : Value) : (e.all.filtered (.binary (.column c) .eq (.literal id))).IsNamed := by
  refine ⟨he, fun c' hc' => ?_⟩
  rw [List.mem_singleton.mp hc']
  exact hc

/-- What the condition that picks a row by its identity says. -/
theorem pieces_key {c : ColumnRef} (hc : c.IsNamed) (id : Value) :
    Template.pieces (Expr.binary (.column c) .eq (.literal id)).template
      = [.token (.column c.table c.name), .token (.mark "="), .value id] := by
  have htemplate : (Expr.binary (.column c) .eq (.literal id)).template
      = [.text c.qualifiedName, .text " = ", .value id] := by
    simp [Expr.template, Expr.binaryTemplate, Expr.bracketed, Expr.wrapsUnder, BinaryOp.isBoolean,
      BinaryOp.symbol]
  have hequals : tokens " = ".toList = some [.mark "="] := by decide
  rw [htemplate, Template.pieces_text_cons (Expr.isPhrase_qualifiedName hc).tokens,
    Template.pieces_text_cons hequals]
  rfl

theorem readKey_where {c : ColumnRef} (hc : c.IsNamed) (id : Value) :
    Write.readKey c.table (.token (.word "WHERE")
        :: Template.pieces (Expr.binary (.column c) .eq (.literal id)).template)
      = some (c.name, id) := by
  rw [pieces_key hc]
  exact if_pos rfl

/-- **A statement that saves a stored instance writes the dirty columns of the row that has the
identity of the instance when it was stored.** -/
theorem read_update {condition : Expr} {s : Statement} (hi : i.entity.IsRegistered)
    (hcondition : i.identityFilter "save" = .ok condition)
    (h : (i.entity.all.filtered condition).updateStatement
      (i.changes.map fun (name, v) => (name, .value v)) = .ok s) :
    ∃ key id, i.schema.identityName? = some key ∧ i.savedIdentity = some id
      ∧ Write.read s = some (.update i.entity.table i.changes key id) := by
  obtain ⟨key, id, type, hkey, hid, hnamed, rfl⟩ := identityFilter_ok hi hcondition
  refine ⟨key, id, hkey, hid, ?_⟩
  -- something is written, or the statement would have been refused
  have hne : i.changes ≠ [] := by
    obtain ⟨t, ht, -⟩ := Request.statement_eq_ok (r := .update _) h
    obtain ⟨sets, hsets, hne, -⟩ := Query.updateTemplate_ok ht
    intro hnil
    rw [hnil] at hsets
    cases hsets
    exact hne rfl
  have hq := isNamed_key hi hnamed id
  have hr : (Request.update (i.changes.map fun (name, v) => (name, .value v))).IsNamed
      (i.entity.all.filtered
        (.binary (.column ⟨i.entity.table, key, type⟩) .eq (.literal id))) := by
    refine ⟨fun e he => List.mem_singleton.mp he ▸ hq.entity, fun c hc => ?_⟩
    rcases List.mem_append.mp hc with hc | hc
    · -- what is assigned are values, which hold no column
      obtain ⟨a, ha, hc⟩ := List.mem_flatMap.mp hc
      obtain ⟨p, -, rfl⟩ := List.mem_map.mp ha
      cases hc
    · exact hq.filter c hc
  have hassignments : (i.changes.map fun (name, v) => (name, Operand.value v)).map
      Query.assignmentPieces
      = i.changes.map fun a => [.token (.word a.1), .token (.mark "="), .value a.2] := by
    rw [List.map_map]
    rfl
  have hlength := Write.length_le_listed
    (f := fun a => [.token (.word a.1), .token (.mark "="), .value a.2]) (by simp) i.changes
  rw [Write.read_eq (r := .update _) hr h, Request.pieces, Query.updatePieces, hassignments]
  change (Write.readItems Write.readAssignment _
    (listed _ ++ .token (.word "WHERE") :: _)).bind _ = _
  rw [Write.readItems_listed Write.readAssignment_append hne (by
    simp only [List.length_append]; omega) (by simp), Option.bind_some]
  exact congrArg (Option.bind · _) (readKey_where hnamed id)

/-- **A statement that deletes the row of an instance looks for the identity of the instance when it
was stored.** -/
theorem read_delete {condition : Expr} {s : Statement} (hi : i.entity.IsRegistered)
    (hcondition : i.identityFilter "delete" = .ok condition)
    (h : (i.entity.all.filtered condition).deleteStatement = .ok s) :
    ∃ key id, i.schema.identityName? = some key ∧ i.savedIdentity = some id
      ∧ Write.read s = some (.delete i.entity.table key id) := by
  obtain ⟨key, id, type, hkey, hid, hnamed, rfl⟩ := identityFilter_ok hi hcondition
  refine ⟨key, id, hkey, hid, ?_⟩
  have hq := isNamed_key hi hnamed id
  have hr : Request.delete.IsNamed _ :=
    ⟨fun e he => List.mem_singleton.mp he ▸ hq.entity, hq.filter⟩
  rw [Write.read_eq (r := .delete) hr h]
  exact congrArg (Option.bind · _) (readKey_where hnamed id)

end Instance

end EntityMapper
