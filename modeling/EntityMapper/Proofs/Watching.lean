import EntityMapper.Proofs.Observing

/-!
# Watching an instance

To say what an action on an instance did, the pool is recorded meanwhile and its exchanges are
looked at. `perform` does an action so, and `Step` says all that can come of it. An action sends at
most one statement, and unless that is answered the instance stays what it was.
-/

namespace EntityMapper

open Sql

variable {σ α : Type} [Pool σ]

/-- What came of an action. -/
structure Performed where
  succeeded : Bool
  left : Instance
  exchanges : List Exchange

/-- Does something to an instance through a client whose pool is recorded meanwhile. -/
def Action.perform (a : Action) (i : Instance) (c : Client σ) : Performed :=
  let r := effect a.run (i, c.recorded)
  ⟨r.1.isOk, r.2.1, r.2.2.pool.exchanges⟩

/-- **What an action leaves does not depend on being watched.** -/
theorem Action.left_run (a : Action) (i : Instance) (c : Client σ) :
    (effect a.run (i, c)).2.1 = (a.perform i c).left := by
  rw [effect_run]
  rfl

/-- Neither does whether it succeeds. -/
theorem Action.succeeded_run (a : Action) (i : Instance) (c : Client σ) :
    (effect a.run (i, c)).1.isOk = (a.perform i c).succeeded := by
  rw [effect_run]
  rfl

namespace Instance

variable {i : Instance}

/-- The instance once its row is stored, with what the database gave back. -/
def stored (i : Instance) (rows : List Record) : Instance :=
  match rows.head? with
  | some r => (i.merge r).persisted
  | none => i.persisted

/-- An action on an instance sends a statement, and leaves `next` if that is answered. -/
inductive Sends (i : Instance) : Action → Statement → (List Record → Instance) → Prop where
  /-- A query stores the instance. -/
  | insert {q : Query} {s : Statement} (h : q.insertStatement i = .ok s) :
    Sends i (.insert q) s i.stored
  /-- Saving stores an instance that is not stored. -/
  | first {s : Statement} (hsaved : i.isSaved = false)
    (h : i.entity.all.insertStatement i = .ok s) : Sends i .save s i.stored
  /-- Saving writes the dirty columns of a stored instance. -/
  | update {condition : Expr} {s : Statement} (hsaved : i.isSaved = true)
    (hcondition : i.identityFilter "save" = .ok condition)
    (h : (i.entity.all.filtered condition).updateStatement
      (i.changes.map fun (name, v) => (name, .value v)) = .ok s) :
    Sends i .save s fun _ => i.persisted
  /-- Deleting removes the row of a stored instance. -/
  | delete {condition : Expr} {s : Statement} (hsaved : i.isSaved = true)
    (hcondition : i.identityFilter "delete" = .ok condition)
    (h : (i.entity.all.filtered condition).deleteStatement = .ok s) :
    Sends i .delete s fun _ => i.deleted

/-- All that can come of an action on an instance. -/
inductive Step (i : Instance) : Action → Performed → Prop where
  /-- It is refused before anything is sent. -/
  | refused (a : Action) : Step i a ⟨false, i, []⟩
  | assigned {name : String} {v : Value} {j : Instance} (h : i.set name v = .ok j) :
    Step i (.set name v) ⟨true, j, []⟩
  /-- Saving finds nothing to write. -/
  | unchanged (hsaved : i.isSaved = true) (hdirty : i.isDirty = false) :
    Step i .save ⟨true, i, []⟩
  /-- Its statement fails. -/
  | failed {a : Action} {s : Statement} {next : List Record → Instance} (e : Error)
    (h : i.Sends a s next) : Step i a ⟨false, i, [⟨s, .error e⟩]⟩
  /-- Its statement is answered. -/
  | answered {a : Action} {s : Statement} {next : List Record → Instance} (rows : List Record)
    (h : i.Sends a s next) : Step i a ⟨true, next rows, [⟨s, .ok rows⟩]⟩

/-- Each statement of a step is one that the action sends. -/
theorem Step.sends_of_mem {a : Action} {p : Performed} (h : i.Step a p) :
    ∀ x ∈ p.exchanges, ∃ next, i.Sends a x.statement next := by
  intro x hx
  cases h with
  | refused a => cases hx
  | assigned h => cases hx
  | unchanged hsaved hdirty => cases hx
  | failed e hsends =>
      rw [List.mem_singleton.mp hx]
      exact ⟨_, hsends⟩
  | answered rows hsends =>
      rw [List.mem_singleton.mp hx]
      exact ⟨_, hsends⟩

theorem Action.perform_eq {a : Action} {c : Client σ} {out : Except Error Unit} {j : Instance}
    {c' : Client (Recorded σ)} (h : effect a.run (i, c.recorded) = (out, (j, c'))) :
    a.perform i c = ⟨out.isOk, j, c'.pool.exchanges⟩ := by
  rw [Action.perform, h]

/-- What comes of an action that fails before it uses the client. -/
theorem step_of_refused {a : Action} {c : Client σ} {e : Error}
    (h : effect a.run (i, c.recorded) = (.error e, (i, c.recorded))) :
    i.Step a (a.perform i c) := by
  rw [Action.perform_eq h]
  exact .refused a

/-- What comes of an action whose statement is sent through the client, with what it does then. -/
theorem step_of_sends {a : Action} {s : Statement} {next : List Record → Instance}
    {m : ClientM (Recorded σ) α} {rows : α → List Record} {f : α → InstanceM (Recorded σ) Unit}
    {c : Client σ} (hm : Dispatches c.recorded s rows (effect m c.recorded))
    (h : i.Sends a s next) (hf : ∀ v c', effect (f v) (i, c') = (.ok (), (next (rows v), c')))
    (hop : effect a.run (i, c.recorded) = effect (InstanceM.onClient m >>= f) (i, c.recorded)) :
    i.Step a (a.perform i c) := by
  have hclient := InstanceM.effect_onClient m i c.recorded
  generalize effect m c.recorded = r at hm hclient
  cases hm with
  | refused hpool hgrows =>
      rw [Action.perform_eq (hop.trans (effect_bind_error hclient f)), Recorded.exchanges,
        hgrows.calls]
      exact .refused a
  | @sent out c' hpool hgrows =>
      have hcalls : c'.pool.exchanges = [⟨s, out.map rows⟩] := by
        rw [Recorded.exchanges, hgrows.calls]
        rfl
      cases out with
      | error e =>
          rw [Action.perform_eq (hop.trans (effect_bind_error hclient f)), hcalls]
          exact .failed e h
      | ok v =>
          rw [Action.perform_eq (hop.trans ((effect_bind_ok hclient f).trans (hf v _))), hcalls]
          exact .answered (rows v) h

/-- What comes of storing an instance by a query. -/
theorem step_of_insert {a : Action} {q : Query} {c : Client σ}
    (h : ∀ s, q.insertStatement i = .ok s → i.Sends a s i.stored)
    (hop : effect a.run (i, c.recorded) = effect q.insert (i, c.recorded)) :
    i.Step a (a.perform i c) := by
  rw [Query.insert, InstanceM.effect_current] at hop
  cases hs : q.insertStatement i with
  | error e => exact step_of_refused (hop.trans (effect_liftM_error hs _ _))
  | ok s =>
      rw [effect_liftM_ok hs] at hop
      by_cases hreturns : q.returnsGenerated i = true
      · -- the row is asked back; without rows in the answer nothing is taken over
        rw [if_pos hreturns, InstanceM.effect_fetchOne] at hop
        refine step_of_sends (Client.dispatches_fetch q.entity.name .insert s _) (h s hs) ?_ hop
        exact fun rows c' => rfl
      · rw [if_neg hreturns] at hop
        refine step_of_sends (Client.dispatches_execute q.entity.name .insert s _) (h s hs) ?_ hop
        exact fun n c' => rfl

/-- What comes of an action that looks for the stored row first. -/
theorem step_of_identity {a : Action} {action : String} {f : Expr → InstanceM (Recorded σ) Unit}
    {c : Client σ}
    (h : ∀ condition, i.identityFilter action = .ok condition →
      effect a.run (i, c.recorded) = effect (f condition) (i, c.recorded) →
      i.Step a (a.perform i c))
    (hop : effect a.run (i, c.recorded)
      = effect (liftM (i.identityFilter action) >>= f) (i, c.recorded)) :
    i.Step a (a.perform i c) := by
  cases hcondition : i.identityFilter action with
  | error e => exact step_of_refused (hop.trans (effect_liftM_error hcondition _ _))
  | ok condition => exact h condition hcondition (hop.trans (effect_liftM_ok hcondition _ _))

/-- What comes of an action that sends a statement for its count of rows, if it can be rendered. -/
theorem step_of_execute {a : Action} {x : Except Error Statement} {next : Instance}
    {entity : String} {kind : StatementKind} {f : Nat → InstanceM (Recorded σ) Unit} {c : Client σ}
    (h : ∀ s, x = .ok s → i.Sends a s fun _ => next)
    (hf : ∀ n c', effect (f n) (i, c') = (.ok (), (next, c')))
    (hop : effect a.run (i, c.recorded) = effect (InstanceM.onClient
      (do let s ← liftM x; Client.execute entity kind s) >>= f) (i, c.recorded)) :
    i.Step a (a.perform i c) := by
  cases hs : x with
  | error e =>
      have hclient := effect_liftM_error hs (Client.execute entity kind) c.recorded
      exact step_of_refused (hop.trans (InstanceM.effect_onClient_error hclient _ _))
  | ok s =>
      have hclient := effect_liftM_ok hs (Client.execute entity kind) c.recorded
      rw [InstanceM.effect_onClient_congr hclient] at hop
      exact step_of_sends (Client.dispatches_execute entity kind s _) (h s hs) hf hop

/-- What comes of setting a column. -/
theorem step_set (name : String) (v : Value) (i : Instance) (c : Client σ) :
    i.Step (.set name v) ((Action.set name v).perform i c) := by
  have hop : effect (Action.set name v).run (i, c.recorded) = _ :=
    InstanceM.effect_assign name v i c.recorded
  cases hset : i.set name v with
  | error e =>
      rw [hset] at hop
      exact step_of_refused hop
  | ok j =>
      rw [hset] at hop
      have hperform : (Action.set name v).perform i c = ⟨true, j, []⟩ := Action.perform_eq hop
      rw [hperform]
      exact .assigned hset

/-- What comes of saving. -/
theorem step_save (i : Instance) (c : Client σ) : i.Step .save (Action.save.perform i c) := by
  have hop : effect Action.save.run (i, c.recorded)
    = effect (do let _ ← Instance.save) (i, c.recorded) := rfl
  rw [Instance.save, bind_assoc, InstanceM.effect_current] at hop
  by_cases hsaved : i.isSaved = true
  · rw [if_neg (by simp [hsaved]), bind_assoc] at hop
    refine step_of_identity (fun condition hcondition hop => ?_) hop
    by_cases hdirty : i.isDirty = true
    · rw [if_neg (by simp [hdirty]), bind_assoc] at hop
      exact step_of_execute (fun s => .update hsaved hcondition) (fun n c' => rfl) hop
    · -- nothing is sent, but the identity was looked for
      rw [if_pos (by simp [hdirty])] at hop
      rw [Action.perform_eq hop]
      exact .unchanged hsaved (by simpa using hdirty)
  · rw [if_pos (by simp [hsaved]), bind_assoc] at hop
    refine step_of_insert (fun s h => .first (by simpa using hsaved) h) (hop.trans ?_)
    rw [pure_bind, bind_pure_unit]

/-- What comes of deleting. -/
theorem step_delete (i : Instance) (c : Client σ) :
    i.Step .delete (Action.delete.perform i c) := by
  have hop : effect Action.delete.run (i, c.recorded)
    = effect (do let _ ← Instance.delete) (i, c.recorded) := rfl
  rw [Instance.delete, bind_assoc, InstanceM.effect_current] at hop
  by_cases hsaved : i.isSaved = true
  · rw [if_neg (by simp [hsaved]), bind_assoc] at hop
    refine step_of_identity (fun condition hcondition hop => ?_) hop
    rw [bind_assoc] at hop
    exact step_of_execute (fun s => .delete hsaved hcondition) (fun n c' => rfl) hop
  · rw [if_pos (by simp [hsaved])] at hop
    exact step_of_refused hop

/-- **What comes of an action is one of the steps.** -/
theorem step_perform (a : Action) (i : Instance) (c : Client σ) : i.Step a (a.perform i c) := by
  cases a with
  | set name v => exact step_set name v i c
  | save => exact step_save i c
  | delete => exact step_delete i c
  | insert q => exact step_of_insert (fun s h => .insert h) rfl

end Instance

end EntityMapper
