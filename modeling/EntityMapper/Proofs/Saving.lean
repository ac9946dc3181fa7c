import EntityMapper.Proofs.Calls
import EntityMapper.Proofs.Consistency
import EntityMapper.Proofs.Fitting

/-!
# What can go wrong in saving

Saving an instance renders an update from values that were set long before, and everything that was
checked then is checked again. None of it can fail: whatever is dirty came through `set`, so an
instance that is consistent and has an identity to look for (`IsFindable`) has its update, and
saving it fails only where the pool does. After a success nothing is dirty, so that saving once more
does nothing.
-/

namespace EntityMapper

open Sql (Statement Template)
open InstanceM

variable {σ : Type} {i j : Instance} {c : Column} {name : String} {v : Value}

/-! ## Statements that can be built -/

namespace Query

variable {q : Query}

/-- A value that its column accepts can be assigned. -/
theorem exists_assignmentTemplate (hc : q.entity.schema.column name = .ok c)
    (haccepts : c.type.accepts v = true) (hpasses : c.passes v = true) :
    ∃ t, q.assignmentTemplate (name, .value v) = .ok t := by
  refine ⟨.text (name ++ "=") :: (Expr.literal v).template, ?_⟩
  rw [assignmentTemplate, hc]
  -- a plain value is checked as in `set`
  change (Instance.checkAssignment c v >>= fun _ => _) = _
  rw [Instance.checkAssignment_eq_ok.mpr ⟨haccepts, hpasses⟩]
  rfl

/-- An update without page is rendered if there is something to assign and all of it can be. -/
theorem exists_updateStatement {assignments : List (String × Operand)} (hpage : q.isPaged = false)
    (hne : assignments ≠ []) (h : ∀ a ∈ assignments, ∃ t, q.assignmentTemplate a = .ok t) :
    ∃ s, q.updateStatement assignments = .ok s := by
  obtain ⟨sets, hsets, hlength⟩ := exists_mapM h
  have hsome : sets.isEmpty = false := by
    rw [List.isEmpty_eq_false_iff, ← List.length_pos_iff, hlength]
    exact List.length_pos_iff.mpr hne
  have htemplate : q.updateTemplate assignments
      = .ok (.text ("UPDATE " ++ q.entity.table ++ " SET ") :: Template.joined "," sets
        ++ q.whereTemplate) := by
    rw [updateTemplate, rejectPage, hpage, hsets]
    change (if sets.isEmpty then _ else _) = _
    rw [hsome]
    rfl
  rw [updateStatement_eq, htemplate]
  exact ⟨_, rfl⟩

end Query

namespace Instance

/-! ## The row that is looked for -/

/-- Whether the row can be looked for: it was stored with an identity that its column accepts. -/
def IsFindable (i : Instance) : Prop :=
  ∃ c id, i.schema.identityColumn? = some c ∧ i.savedIdentity = some id ∧ id ≠ .null
    ∧ c.type.accepts id = true

theorem isBound_identityColumn (hr : i.entity.IsRegistered)
    (h : i.schema.identityColumn? = some c) : c.isBound = true := by
  obtain ⟨k, -, hget⟩ := Option.bind_eq_some_iff.mp h
  obtain ⟨⟨key, d⟩, hkey, rfl⟩ := Option.map_eq_some_iff.mp hget
  rw [Column.isBound, hr.wellFormed.columns.bound _ (List.mem_of_getElem? hkey)]
  rfl

/-- **A row has a condition that picks it exactly if it can be looked for.** -/
theorem exists_identityFilter (hr : i.entity.IsRegistered) (action : String) :
    (∃ e, i.identityFilter action = .ok e) ↔ i.IsFindable := by
  unfold identityFilter IsFindable
  cases hc : i.schema.identityColumn? with
  | none => simp
  | some c =>
      have hjoins := Operand.joins_eq (isBound_identityColumn hr hc)
      cases hid : i.savedIdentity with
      | none => simp [knownIdentity?, hid]
      | some id =>
          cases hnull : id.isNull with
          | true =>
              have hunknown : i.knownIdentity? = none := by simp [knownIdentity?, hid, hnull]
              simp [hunknown, id.isNull_iff.mp hnull]
          | false =>
              have hne : id ≠ .null := fun h => by rw [h] at hnull; cases hnull
              have hknown : i.knownIdentity? = some id := by simp [knownIdentity?, hid, hnull]
              simp only [hknown]
              exact (hjoins id).trans (by simp [hne])

/-! ## The update of a dirty instance -/

/-- What is written was accepted. -/
theorem accepted_of_mem_changes (h : i.IsConsistent) {p : String × Value} (hp : p ∈ i.changes) :
    ∃ (k : Nat) (c : Column), i.schema.columns[k]? = some (p.1, c)
      ∧ c.type.accepts p.2 = true ∧ c.passes p.2 = true := by
  obtain ⟨k, c, cell, hk, hcell, hdirty, hvalue⟩ := slot_of_mem_changes hp
  obtain ⟨v, hv, haccepts, hpasses⟩ := h.accepted k p.1 c cell hk hcell hdirty
  rw [hv, Option.getD_some] at hvalue
  exact ⟨k, c, hk, hvalue ▸ haccepts, hvalue ▸ hpasses⟩

/-- A dirty instance has something to write. -/
theorem changes_ne_nil (h : i.IsConsistent) (hdirty : i.isDirty = true) : i.changes ≠ [] := by
  obtain ⟨cell, hcell, hd⟩ := List.any_eq_true.mp hdirty
  obtain ⟨k, hk⟩ := List.mem_iff_getElem?.mp hcell
  have hlt : k < i.schema.columns.length := h.size ▸ (List.getElem?_eq_some_iff.mp hk).1
  have hname := mem_dirtyColumns (List.getElem?_eq_getElem hlt) hk hd
  rw [← names_changes] at hname
  intro hnil
  rw [hnil] at hname
  cases hname

/-- **A dirty instance that can be looked for has its update.** -/
theorem exists_saveStatement (hr : i.entity.IsRegistered) (h : i.IsConsistent)
    (hsaved : i.isSaved = true) (hfindable : i.IsFindable) (hdirty : i.isDirty = true) :
    ∃ s, i.saveStatement = .ok (some s) := by
  obtain ⟨condition, hcondition⟩ := (exists_identityFilter hr "save").mpr hfindable
  have hassigned : ∀ a ∈ i.changes.map fun p => (p.1, Operand.value p.2),
      ∃ t, (i.entity.all.filtered condition).assignmentTemplate a = .ok t := by
    intro a ha
    obtain ⟨p, hp, rfl⟩ := List.mem_map.mp ha
    obtain ⟨k, c, hk, haccepts, hpasses⟩ := accepted_of_mem_changes h hp
    exact Query.exists_assignmentTemplate (hr.wellFormed.column_eq hk) haccepts hpasses
  obtain ⟨s, hs⟩ := Query.exists_updateStatement (q := i.entity.all.filtered condition) rfl
    (by simpa using changes_ne_nil h hdirty) hassigned
  refine ⟨s, ?_⟩
  rw [saveStatement, if_pos hsaved, hcondition]
  change (if i.isDirty then _ else _) = _
  rw [if_pos hdirty, hs]
  rfl

end Instance

/-! ## What saving does -/

section

variable [Pool σ]

/-- What a pool answers to a statement, if it has a connection for it. -/
def Client.answer (c : Client σ) (s : Statement) : Except Error Nat :=
  match Pool.acquire c.pool with
  | (.error e, _) => .error e
  | (.ok _, p) => (Pool.execute s p).1

/-- A statement that is logged and then sent goes as the pool's operation goes. -/
theorem Client.outcome_logged {α : Type} {m : ClientM σ α} {f : σ → Except Error α × σ}
    (hm : ∀ c, (effect m c).1 = (f c.pool).1) (entity : String) (kind : StatementKind)
    (s : Statement) (c : Client σ) :
    (effect (do logStatement entity kind s; withConnection m) c).1
      = match Pool.acquire c.pool with
        | (.error e, _) => .error e
        | (.ok _, p) => (f p).1 := by
  have hlog := effect_logStatement entity kind s c
  have hpool := pool_logStatement entity kind s c
  rw [hlog] at hpool
  rw [effect_bind_ok hlog, effect_withConnection, hpool]
  rcases Pool.acquire c.pool with ⟨out, p⟩
  cases out with
  | error e => rfl
  | ok u => exact hm _

theorem Client.outcome_execute (entity : String) (kind : StatementKind) (s : Statement)
    (c : Client σ) : (effect (execute entity kind s) c).1 = c.answer s :=
  outcome_logged (f := Pool.execute s) (fun _ => rfl) entity kind s c

/-- An update goes as its statement goes. -/
theorem Query.outcome_update {q : Query} {assignments : List (String × Operand)} {s : Statement}
    (hs : q.updateStatement assignments = .ok s) (c : Client σ) :
    (effect (q.update assignments) c).1 = c.answer s := by
  rw [update, effect_liftM_ok hs, Client.outcome_execute]

namespace Instance

/-- **Saving a stored instance goes as its statement goes.** -/
theorem outcome_save {s : Statement} (hsaved : i.isSaved = true)
    (hs : i.saveStatement = .ok (some s)) (c : Client σ) :
    (effect save (i, c)).1 = (c.answer s).map SaveOutcome.updated := by
  rw [saveStatement, if_pos hsaved] at hs
  obtain ⟨condition, hcondition, hs⟩ := bind_eq_ok.mp hs
  split at hs
  · rename_i hdirty
    obtain ⟨s', hs', hsame⟩ := map_eq_ok.mp hs
    cases hsame
    have hupdate := Query.outcome_update hs' c
    rw [save, effect_current, if_neg (by simp [hsaved]), effect_liftM_ok hcondition,
      if_neg (by simp [hdirty])]
    -- what comes after the update cannot fail
    change (effect (onClient (Query.update _ _) >>= _) (i, c)).1 = _
    rw [effect_bind, effect_onClient, ← hupdate]
    rcases effect (Query.update _ _) c with ⟨out, c'⟩
    cases out <;> rfl
  · cases hs

/-- A row that is stored and not dirty is looked for, and that is all. -/
theorem save_settled (hr : i.entity.IsRegistered) (hsaved : i.isSaved = true)
    (hdirty : i.isDirty = false) (hfindable : i.IsFindable) (c : Client σ) :
    effect save (i, c) = (.ok .unchanged, (i, c)) := by
  obtain ⟨condition, hcondition⟩ := (exists_identityFilter hr "save").mpr hfindable
  rw [save, effect_current, if_neg (by simp [hsaved]), effect_liftM_ok hcondition,
    if_pos (by simp [hdirty])]
  rfl

theorem isDirty_persisted (i : Instance) : i.persisted.isDirty = false := by
  rw [isDirty_eq_false]
  intro cell hcell
  obtain ⟨old, -, rfl⟩ := List.mem_map.mp hcell
  rfl

/-- After a success an instance is stored, and nothing is dirty. -/
theorem settled_of_save {c c' : Client σ} {out : SaveOutcome}
    (h : effect save (i, c) = (.ok out, (j, c'))) :
    j.entity = i.entity ∧ j.isSaved = true ∧ j.isDirty = false := by
  have hrun : effect Action.save.run (i, c) = (.ok (), (j, c')) := by
    rw [Action.run, effect_bind_ok h]
    rfl
  have hleft := Action.left_run .save i c
  have hsucceeded := Action.succeeded_run .save i c
  have hstep := step_perform .save i c
  rw [hrun] at hleft hsucceeded
  change j = _ at hleft
  rw [hleft]
  generalize Action.save.perform i c = p at hstep hsucceeded ⊢
  -- only a step that succeeds is left
  cases hstep with
  | refused => cases hsucceeded
  | unchanged hsaved hdirty => exact ⟨rfl, hsaved, hdirty⟩
  | failed e hsends => cases hsucceeded
  | answered rows hsends =>
      cases hsends with
      | first hsaved hs =>
          unfold stored
          split
          · exact ⟨rfl, rfl, isDirty_persisted _⟩
          · exact ⟨rfl, rfl, isDirty_persisted _⟩
      | update hsaved hcondition hs => exact ⟨rfl, rfl, isDirty_persisted _⟩

/-- **Saving fails only where the pool does, and doing it twice is doing it once.**

Take an instance of a registered entity in any state that a program can bring it to. If its row is
stored and can be looked for, and a column is dirty, then there is an update for it, and whatever
the client's pool does, saving has the outcome that the pool gives to this update. And after it was
saved with success, whatever was generated and given back: if the row can be looked for, then saving
it again changes and sends nothing. -/
theorem save_fails_only_outside (hr : i.entity.IsRegistered) (h : Arises σ i) :
    (i.isSaved = true → i.IsFindable → i.isDirty = true →
      ∃ s, i.saveStatement = .ok (some s) ∧
        ∀ c : Client σ, (effect save (i, c)).1 = (c.answer s).map SaveOutcome.updated) ∧
    ∀ (c : Client σ) (out : SaveOutcome) (j : Instance) (c' : Client σ),
      effect save (i, c) = (.ok out, (j, c')) → j.IsFindable →
        ∀ d : Client σ, effect save (j, d) = (.ok .unchanged, (j, d)) := by
  constructor
  · intro hsaved hfindable hdirty
    obtain ⟨s, hs⟩ := exists_saveStatement hr (isConsistent_of_arises h) hsaved hfindable hdirty
    exact ⟨s, hs, outcome_save hsaved hs⟩
  · intro c out j c' hsave hfindable d
    obtain ⟨hentity, hsaved, hdirty⟩ := settled_of_save hsave
    exact save_settled (hentity ▸ hr) hsaved hdirty hfindable d

/-- A score that was changed: the update fails or is answered as the pool likes, and once it was
answered nothing is left to do. -/
theorem save_fails_only_outside_score :
    let loaded := ofRecord Entity.tasks ⟨[("id", .int 1), ("score", .int 5)]⟩
    let c := Client.connect 0 {} ({} : ScriptedPool)
    let changed := (effect (Action.set "score" (.int 6)).run (loaded, c)).2.1
    let saved := (effect save (changed, c)).2.1
    let failing := Client.connect 0 {} ({ failure := some "connection reset" } : ScriptedPool)
    changed.isSaved = true ∧ changed.IsFindable ∧ changed.isDirty = true ∧
      (∃ s, changed.saveStatement = .ok (some s) ∧
        s.sql = "UPDATE tasks SET score=$1 WHERE tasks.id = $2" ∧
        (effect save (changed, c)).1 = (c.answer s).map SaveOutcome.updated ∧
        (effect save (changed, failing)).1 = .error (.other "connection reset")) ∧
      saved.IsFindable ∧ effect save (saved, failing) = (.ok .unchanged, (saved, failing)) := by
  intro loaded c changed saved failing
  have hchanged : Arises ScriptedPool changed := .acted (.loaded _ _) _ c
  have hfindable : ∀ {x : Instance}, x.entity = Entity.tasks → x.savedIdentity = some (.int 1) →
      x.IsFindable := by
    intro x he hid
    refine ⟨Column.serial.bind "tasks" "id" none, .int 1, ?_, hid, nofun, rfl⟩
    rw [schema, he]
    rfl
  obtain ⟨hupdate, htwice⟩ := save_fails_only_outside Entity.tasks_isRegistered hchanged
  obtain ⟨s, hs, hanswer⟩ := hupdate rfl (hfindable rfl rfl) rfl
  refine ⟨rfl, hfindable rfl rfl, rfl, ⟨s, hs, ?_, hanswer c, hanswer failing⟩,
    hfindable rfl rfl, htwice c _ saved _ rfl (hfindable rfl rfl) failing⟩
  have hsql : changed.saveStatement.toOption.join.map (·.sql)
      = some "UPDATE tasks SET score=$1 WHERE tasks.id = $2" := by decide
  rw [hs] at hsql
  exact Option.some.inj hsql

end Instance

end

end EntityMapper
