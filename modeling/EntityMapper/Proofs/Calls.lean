import EntityMapper.Proofs.Recording
import EntityMapper.Proofs.Registration

/-!
# Statements that are sent

A statement can be looked at before it is sent: every operation has one that is built from what it
is given, or a reason why there is none. To compare it with what goes out, the pool is recorded.
`Conducts` says how an operation with a given statement can go: the statement cannot be built, none
is needed, there is no connection for it, or it is sent, once and on a connection of its own, and
what is answered is what comes of the operation.
-/

namespace EntityMapper

open Sql (Statement)
open InstanceM

variable {σ α β : Type}

/-! ## Sending a statement -/

/-- How an operation can go for which `x` is the statement, if there is one: its outcome, and the
client afterwards. -/
inductive Conducts [Pool σ] (c : Client (Recorded σ)) :
    Except Error (Option Statement) → Except Error α × Client (Recorded σ) → Prop where
  /-- The statement cannot be built. -/
  | rejected {e : Error} {c' : Client (Recorded σ)} (h : Grows c c' [] []) :
    Conducts c (.error e) (.error e, c')
  /-- None is needed. -/
  | idle {a : α} {c' : Client (Recorded σ)} (h : Grows c c' [] []) :
    Conducts c (.ok none) (.ok a, c')
  /-- There is no connection for it. -/
  | refused {s : Statement} {e : Error} {c' : Client (Recorded σ)}
    (hpool : (Pool.acquire c.pool).1 = .error e) (h : Grows c c' [s] [.refused]) :
    Conducts c (.ok (some s)) (.error e, c')
  /-- It is sent, and the operation fails as the statement does. -/
  | sent {s : Statement} {out : Except Error α} {answer : Except Error (List Record)}
    {c' : Client (Recorded σ)} (hpool : (Pool.acquire c.pool).1 = .ok ())
    (hout : out.map (fun _ => ()) = answer.map fun _ => ())
    (h : Grows c c' [s] [.acquired, .sent ⟨s, answer⟩, .released]) :
    Conducts c (.ok (some s)) (out, c')

section

variable [Pool σ] {c : Client (Recorded σ)} {x : Except Error (Option Statement)} {s : Statement}

/-- What is made of a success does not matter. -/
theorem Conducts.map {r : Except Error α × Client (Recorded σ)} (h : Conducts c x r) (g : α → β) :
    Conducts c x (r.1.map g, r.2) := by
  cases h with
  | rejected h => exact .rejected h
  | idle h => exact .idle h
  | refused hpool h => exact .refused hpool h
  | @sent _ out _ _ hpool hout h =>
      refine .sent hpool ?_ h
      rw [← hout]
      cases out <;> rfl

theorem Conducts.answered {m : ClientM (Recorded σ) α} (h : Conducts c x (effect m c)) (g : α → β) :
    Conducts c x (effect (do return g (← m)) c) := by
  rw [effect_map]
  exact h.map g

/-- A statement may have to be built first. -/
theorem Conducts.built {x : Except Error Statement} {m : Statement → ClientM (Recorded σ) α}
    (h : ∀ s, Conducts c (.ok (some s)) (effect (m s) c)) :
    Conducts c (x.map some) (effect (do let s ← liftM x; m s) c) := by
  cases x with
  | error e =>
      rw [effect_liftM_error rfl]
      exact .rejected (.refl c)
  | ok s =>
      rw [effect_liftM_ok rfl]
      exact h s

/-- A statement that is logged and sent is all that is sent. -/
theorem Dispatches.conducts {rows : α → List Record} {r : Except Error α × Client (Recorded σ)}
    (h : Dispatches c s rows r) : Conducts c (.ok (some s)) r := by
  cases h with
  | refused hpool h => exact .refused hpool h
  | @sent out _ hpool h =>
      refine .sent hpool ?_ h
      cases out <;> rfl

namespace Client

theorem conducts_execute (entity : String) (kind : StatementKind) (s : Statement) :
    Conducts c (.ok (some s)) (effect (execute entity kind s) c) :=
  (dispatches_execute entity kind s c).conducts

theorem conducts_fetch (entity : String) (kind : StatementKind) (s : Statement) :
    Conducts c (.ok (some s)) (effect (fetch entity kind s) c) :=
  (dispatches_fetch entity kind s c).conducts

theorem conducts_fetchOne (entity : String) (kind : StatementKind) (s : Statement) :
    Conducts c (.ok (some s)) (effect (fetchOne entity kind s) c) :=
  (conducts_fetch entity kind s).answered List.head?

end Client

end

/-! ## Statements of operations -/

namespace Instance

/-- The statement that saves an instance; none if there is nothing to write. -/
def saveStatement (i : Instance) : Except Error (Option Statement) :=
  if i.isSaved then do
    let condition ← i.identityFilter "save"
    if i.isDirty then
      ((i.entity.all.filtered condition).updateStatement
        (i.changes.map fun (name, v) => (name, .value v))).map some
    else .ok none
  else (i.entity.all.insertStatement i).map some

/-- The statement that deletes the row of an instance. -/
def deleteStatement (i : Instance) : Except Error (Option Statement) :=
  if i.isSaved then do
    let condition ← i.identityFilter "delete"
    (i.entity.all.filtered condition).deleteStatement.map some
  else .error i.notSaved

end Instance

/-- The statement of an action on an instance, if it needs one. -/
def Action.statement (i : Instance) : Action → Except Error (Option Statement)
  | set name v => (i.set name v).map fun _ => none
  | save => i.saveStatement
  | delete => i.deleteStatement
  | insert q => (q.insertStatement i).map some

/-- The statement of an operation, if it needs one. Tables are created by several. -/
def Operation.statement (i : Instance) : Operation → Except Error (Option Statement)
  | register shape => (Schema.ofShape shape).map fun _ => none
  | createTables | close => .ok none
  | fetch q => (q.fetchStatement []).map some
  | fetchColumns q columns => (q.fetchStatement columns).map some
  | fetchOne q => (q.fetchOneStatement []).map some
  | fetchOneColumns q columns => (q.fetchOneStatement columns).map some
  | update q assignments => (q.updateStatement assignments).map some
  | deleteRows q => q.deleteStatement.map some
  | act a => a.statement i

/-- The outcome of an operation, and the client afterwards. -/
def InstanceM.conduct (m : InstanceM σ α) (i : Instance) (c : Client σ) :
    Except Error α × Client σ := ((effect m (i, c)).1, (effect m (i, c)).2.2)

section

variable [Pool σ] {c : Client (Recorded σ)} {x : Except Error (Option Statement)} {i : Instance}

/-- After a client's operation only the instance is changed. -/
theorem Conducts.followed {m : ClientM (Recorded σ) α} {f : α → InstanceM (Recorded σ) β}
    {g : α → β} (h : Conducts c x (effect m c))
    (hf : ∀ a s, (effect (f a) s).1 = .ok (g a) ∧ (effect (f a) s).2.2 = s.2) :
    Conducts c x ((onClient m >>= f).conduct i c) := by
  have hconduct : (onClient m >>= f).conduct i c = ((effect m c).1.map g, (effect m c).2) := by
    rw [conduct, effect_bind, effect_onClient]
    rcases effect m c with ⟨out, c'⟩
    cases out with
    | error e => rfl
    | ok a => exact Prod.ext (hf a (i, c')).1 (hf a (i, c')).2
  rw [hconduct]
  exact h.map g

theorem Conducts.returned {m : InstanceM (Recorded σ) α} (h : Conducts c x (m.conduct i c))
    (g : α → β) : Conducts c x (InstanceM.conduct (do return g (← m)) i c) := by
  rw [conduct, effect_map]
  exact h.map g

/-- What is made of the rows of an answer does not matter either. -/
theorem Conducts.rows {γ : Type} {x : Except Error Statement}
    {m : Statement → ClientM (Recorded σ) α} {g : α → γ}
    (h : ∀ s, Conducts c (.ok (some s)) (effect (m s) c)) :
    Conducts c (x.map some) (InstanceM.conduct
      (do let _ ← onClient (do let s ← liftM x; return g (← m s))) i c) :=
  (Conducts.built fun s => (h s).answered g).followed fun _ _ => ⟨rfl, rfl⟩

/-- What has to be found out first may refuse the operation. -/
theorem Conducts.checked {y : Except Error α} {g : α → Except Error (Option Statement)}
    {f : α → InstanceM (Recorded σ) β}
    (h : ∀ a, Conducts c (g a) ((f a).conduct i c)) :
    Conducts c (y >>= g) ((liftM y >>= f : InstanceM (Recorded σ) β).conduct i c) := by
  cases y with
  | error e =>
      rw [conduct, effect_liftM_error rfl]
      exact .rejected (.refl c)
  | ok a =>
      rw [conduct, effect_liftM_ok rfl]
      exact h a

theorem Query.conducts_insert (q : Query) (i : Instance) (c : Client (Recorded σ)) :
    Conducts c ((q.insertStatement i).map some) (q.insert.conduct i c) := by
  rw [Query.insert, conduct, effect_current]
  refine Conducts.checked (g := fun s => .ok (some s)) fun s => ?_
  split
  · exact (Client.conducts_fetchOne _ _ s).followed fun _ _ => ⟨rfl, rfl⟩
  · exact (Client.conducts_execute _ _ s).followed fun _ _ => ⟨rfl, rfl⟩

theorem Query.conducts_update (q : Query) (assignments : List (String × Operand))
    (c : Client (Recorded σ)) :
    Conducts c ((q.updateStatement assignments).map some) (effect (q.update assignments) c) :=
  .built fun s => Client.conducts_execute _ _ s

theorem Query.conducts_delete (q : Query) (c : Client (Recorded σ)) :
    Conducts c (q.deleteStatement.map some) (effect q.delete c) :=
  .built fun s => Client.conducts_execute _ _ s

theorem Instance.conducts_save (i : Instance) (c : Client (Recorded σ)) :
    Conducts c i.saveStatement (Instance.save.conduct i c) := by
  rw [Instance.save, conduct, effect_current, saveStatement]
  by_cases hsaved : i.isSaved = true
  · simp only [hsaved, Bool.not_true, Bool.false_eq_true, if_false, if_true]
    refine Conducts.checked fun condition => ?_
    by_cases hdirty : i.isDirty = true
    · simp only [hdirty, Bool.not_true, Bool.false_eq_true, if_false, if_true]
      exact (Query.conducts_update _ _ c).followed fun _ _ => ⟨rfl, rfl⟩
    · simp only [hdirty, Bool.not_false, if_true]
      exact .idle (.refl c)
  · simp only [hsaved, Bool.not_false, Bool.false_eq_true, if_false, if_true]
    exact (Query.conducts_insert _ i c).returned fun _ => SaveOutcome.inserted

theorem Instance.conducts_delete (i : Instance) (c : Client (Recorded σ)) :
    Conducts c i.deleteStatement (Instance.delete.conduct i c) := by
  rw [Instance.delete, conduct, effect_current, deleteStatement]
  by_cases hsaved : i.isSaved = true
  · simp only [hsaved, Bool.not_true, Bool.false_eq_true, if_false, if_true]
    refine Conducts.checked fun condition => ?_
    exact (Query.conducts_delete _ c).followed fun _ _ => ⟨rfl, rfl⟩
  · simp only [hsaved, Bool.not_false, Bool.false_eq_true, if_false, if_true]
    exact .rejected (.refl c)

theorem Action.conducts_run (a : Action) (i : Instance) (c : Client (Recorded σ)) :
    Conducts c (a.statement i) (a.run.conduct i c) := by
  cases a with
  | set name v =>
      rw [run, conduct, InstanceM.effect_assign, statement]
      cases i.set name v with
      | error e => exact .rejected (.refl c)
      | ok j => exact .idle (.refl c)
  | save => exact (Instance.conducts_save i c).returned fun _ => ()
  | delete => exact (Instance.conducts_delete i c).returned fun _ => ()
  | insert q => exact q.conducts_insert i c

theorem Client.conducts_register (shape : Shape) (c : Client (Recorded σ)) :
    Conducts c ((Schema.ofShape shape).map fun _ => none) (effect (Client.register shape) c) := by
  rw [Client.register]
  cases Schema.ofShape shape with
  | error e =>
      rw [effect_liftM_error rfl]
      exact .rejected (.refl c)
  | ok schema =>
      rw [effect_liftM_ok rfl]
      have hnote : Grows c (c.note (.logged _)) [] [] := Client.grows_note (e := .logged
        (.registered schema.name schema.table schema.size schema.identityName?)) rfl
      exact .idle ⟨hnote.config, hnote.lines, hnote.calls⟩

/-- **Every operation but the creation of tables conducts itself as its statement says.** -/
theorem Operation.conducts_run {o : Operation} (ho : o ≠ .createTables) (i : Instance)
    (c : Client (Recorded σ)) : Conducts c (o.statement i) (o.run.conduct i c) := by
  cases o with
  | register shape =>
      exact (Client.conducts_register shape c).followed fun _ _ => ⟨rfl, rfl⟩
  | createTables => exact absurd rfl ho
  | close =>
      exact .idle ⟨rfl, (Grows.refl c).lines, (Grows.refl c).calls⟩
  | fetch q =>
      rw [run, statement, Query.fetch]
      exact .rows (c := c) (Client.conducts_fetch q.entity.name .select)
  | fetchColumns q columns => exact .rows (c := c) (Client.conducts_fetch q.entity.name .select)
  | fetchOne q => exact .rows (c := c) (Client.conducts_fetchOne q.entity.name .select)
  | fetchOneColumns q columns =>
      exact .rows (c := c) (Client.conducts_fetchOne q.entity.name .select)
  | update q assignments =>
      exact (q.conducts_update assignments c).followed fun _ _ => ⟨rfl, rfl⟩
  | deleteRows q => exact (q.conducts_delete c).followed fun _ _ => ⟨rfl, rfl⟩
  | act a => exact a.conducts_run i c

end

/-- **What is sent is what can be looked at, and it is sent once.**

Whatever state a client is in, and whatever instance and operation, but for the creation of tables:
without a statement, because none can be built or none is needed, the pool is asked for nothing;
with one, a connection is asked for, and if it is handed out, that statement is sent on it and the
connection goes back. If the statement cannot be built, the reason is the outcome; if the connection
is refused, the pool's reason is; and if the statement is sent, its answer decides. -/
theorem Operation.sends_its_statement [Pool σ] (c : Client σ) (i : Instance) {o : Operation}
    (ho : o ≠ .createTables) :
    let r := effect o.run (i, c.recorded)
    match o.statement i, (Pool.acquire c.pool).1 with
    | .error e, _ => r.1 = .error e ∧ r.2.2.pool.calls = []
    | .ok none, _ => r.1 = .ok () ∧ r.2.2.pool.calls = []
    | .ok (some _), .error e => r.1 = .error e ∧ r.2.2.pool.calls = [.refused]
    | .ok (some s), .ok () => ∃ answer, r.1 = answer.map (fun _ => ()) ∧
        r.2.2.pool.calls = [.acquired, .sent ⟨s, answer⟩, .released] := by
  intro r
  have hconduct : Conducts c.recorded (o.statement i) (r.1, r.2.2) := o.conducts_run ho i _
  have hsame : (Pool.acquire c.recorded.pool).1 = (Pool.acquire c.pool).1 := rfl
  generalize r.1 = out, r.2.2 = c', o.statement i = x at hconduct ⊢
  cases hconduct with
  | rejected h => exact ⟨rfl, h.calls⟩
  | idle h => exact ⟨rfl, h.calls⟩
  | refused hpool h =>
      rw [← hsame, hpool]
      exact ⟨rfl, h.calls⟩
  | sent hpool hout h =>
      rw [← hsame, hpool]
      refine ⟨_, ?_, h.calls⟩
      rw [← hout]
      cases out <;> rfl

/-- A changed instance is saved through a pool that is open and through one that is closed. -/
theorem Operation.sends_its_statement_save :
    let changed : Instance :=
      ⟨Entity.tasks, [⟨some (.int 1), false⟩, ⟨some (.int 6), true⟩], true, some (.int 1)⟩
    let closed : ScriptedPool := { isClosed := true }
    let run (pool : ScriptedPool) :=
      effect (Operation.act .save).run (changed, (Client.connect 0 {} pool).recorded)
    ∃ s, Operation.act .save ≠ .createTables
      ∧ (Operation.act .save).statement changed = .ok (some s)
      ∧ s.sql = "UPDATE tasks SET score=$1 WHERE tasks.id = $2" ∧ s.params = [.int 6, .int 1]
      ∧ (∃ answer, (run {}).1 = answer.map (fun _ => ())
        ∧ (run {}).2.2.pool.calls = [.acquired, .sent ⟨s, answer⟩, .released])
      ∧ (run closed).1 = .error ScriptedPool.closedError
      ∧ (run closed).2.2.pool.calls = [.refused] := by
  intro changed closed run
  have ho : Operation.act .save ≠ .createTables := nofun
  obtain ⟨s, hs, hsql, hparams⟩ : ∃ s, (Operation.act .save).statement changed = .ok (some s)
    ∧ s.sql = "UPDATE tasks SET score=$1 WHERE tasks.id = $2" ∧ s.params = [.int 6, .int 1] :=
    ⟨_, rfl, by decide, rfl⟩
  have hopen := Operation.sends_its_statement (Client.connect 0 {} ({} : ScriptedPool)) changed ho
  have hclosed := Operation.sends_its_statement (Client.connect 0 {} closed) changed ho
  rw [hs] at hopen hclosed
  exact ⟨s, ho, hs, hsql, hparams, hopen, hclosed⟩

end EntityMapper
