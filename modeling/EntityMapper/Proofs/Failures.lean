import EntityMapper.Proofs.CreatingTables

/-!
# Operations that fail

An operation can fail in many places: a name or a value is refused, a statement cannot be rendered,
there is no connection, the statement fails, or the row that was stored is not given back. All of
them come before the first change. So an operation is put together from two kinds of parts: quiet
ones, which may fail but touch neither the instance nor the entities, and after them final ones,
which change the instance but cannot fail. `Careful` is what such a whole is. Only a registration
changes the entities, and it cannot fail after that.

Each connection that is handed out comes back before the operation ends, also when what was done
with it failed, so that the calls of an operation are balanced.
-/

namespace EntityMapper

variable {σ α β : Type}

/-! ## What a client keeps -/

namespace Client

/-- The number of a client and its entities. -/
def registry (c : Client σ) : Nat × List Entity := (c.id, c.entities)

/-- Whether an operation leaves the registry as it is, whether it fails or not. -/
def Keeps (m : ClientM σ α) : Prop := ∀ c, (effect m c).2.registry = c.registry

theorem Keeps.bind {m : ClientM σ α} {f : α → ClientM σ β} (hm : Keeps m)
    (hf : ∀ a, Keeps (f a)) : Keeps (m >>= f) := by
  intro c
  have hfirst := hm c
  rw [effect_bind]
  rcases hc : effect m c with ⟨out, c'⟩
  rw [hc] at hfirst
  cases out with
  | error e => exact hfirst
  | ok a => exact (hf a c').trans hfirst

theorem keeps_pure (a : α) : Keeps (pure a : ClientM σ α) := fun _ => rfl

theorem keeps_liftM (x : Except Error α) : Keeps (liftM x : ClientM σ α) := fun _ => rfl

theorem keeps_log (entry : LogEntry) : Keeps (log entry : ClientM σ Unit) := fun _ => rfl

theorem keeps_logStatement (entity : String) (kind : StatementKind) (s : Sql.Statement) :
    Keeps (logStatement entity kind s : ClientM σ Unit) := by
  intro c
  rw [effect_logStatement]
  by_cases h : c.config.logStatements = true
  · rw [if_pos h]
    rfl
  · rw [if_neg h]

theorem keeps_forM {f : α → ClientM σ Unit} (hf : ∀ a, Keeps (f a)) (l : List α) :
    Keeps (l.forM f) := by
  induction l with
  | nil => exact keeps_pure ()
  | cons a l ih => exact (hf a).bind fun _ => ih

/-- A statement keeps the registry if it is sent so, whatever is made of the answer. -/
theorem Keeps.answered {x : Except Error Sql.Statement} {m : Sql.Statement → ClientM σ α}
    {g : α → β} (hm : ∀ s, Keeps (m s)) : Keeps (do let s ← liftM x; return g (← m s)) :=
  (keeps_liftM x).bind fun s => (hm s).bind fun a => keeps_pure (g a)

variable [Pool σ]

theorem keeps_sendExecute (s : Sql.Statement) : Keeps (sendExecute s : ClientM σ Nat) :=
  fun _ => rfl

theorem keeps_sendFetch (s : Sql.Statement) : Keeps (sendFetch s : ClientM σ (List Record)) :=
  fun _ => rfl

theorem Keeps.withConnection {m : ClientM σ α} (hm : Keeps m) : Keeps (withConnection m) := by
  intro c
  rw [effect_withConnection]
  rcases Pool.acquire c.pool with ⟨out, p⟩
  cases out with
  | error e => rfl
  | ok u => exact hm ({ c with pool := p }.note .acquired)

theorem keeps_execute (entity : String) (kind : StatementKind) (s : Sql.Statement) :
    Keeps (execute entity kind s : ClientM σ Nat) :=
  (keeps_logStatement entity kind s).bind fun _ => (keeps_sendExecute s).withConnection

theorem keeps_fetch (entity : String) (kind : StatementKind) (s : Sql.Statement) :
    Keeps (fetch entity kind s : ClientM σ (List Record)) :=
  (keeps_logStatement entity kind s).bind fun _ => (keeps_sendFetch s).withConnection

theorem keeps_fetchOne (entity : String) (kind : StatementKind) (s : Sql.Statement) :
    Keeps (fetchOne entity kind s : ClientM σ (Option Record)) :=
  (keeps_fetch entity kind s).bind fun rows => keeps_pure rows.head?

theorem keeps_createTable (e : Entity) : Keeps (createTable e : ClientM σ Unit) := by
  refine Keeps.bind (keeps_logStatement _ _ _) fun _ => ?_
  exact (keeps_sendExecute ⟨e.schema.createTableSql, []⟩).bind fun _ => keeps_pure ()

theorem keeps_createTables : Keeps (createTables : ClientM σ Unit) := by
  refine Keeps.withConnection (Keeps.bind (m := get) (fun _ => rfl) fun c => ?_)
  exact (keeps_forM keeps_createTable c.entities).bind fun _ => keeps_log _

end Client

/-! ## Ways to fail -/

namespace InstanceM

/-- Whether an operation changes neither the instance nor the registry, whether it fails or not. -/
def Quiet (m : InstanceM σ α) : Prop :=
  ∀ s, (effect m s).2.1 = s.1 ∧ (effect m s).2.2.registry = s.2.registry

/-- Whether an operation succeeds and leaves the client as it is. -/
def Final (m : InstanceM σ α) : Prop :=
  ∀ s, (∃ a, (effect m s).1 = .ok a) ∧ (effect m s).2.2 = s.2

/-- Whether an operation leaves the registry as it is and, if it fails, the instance. -/
def Careful (m : InstanceM σ α) : Prop :=
  ∀ s, (effect m s).2.2.registry = s.2.registry ∧
    ∀ e, (effect m s).1 = .error e → (effect m s).2.1 = s.1

variable {m : InstanceM σ α} {f : α → InstanceM σ β}

theorem Quiet.careful (hm : Quiet m) : Careful m :=
  fun s => ⟨(hm s).2, fun _ _ => (hm s).1⟩

theorem Final.careful (hm : Final m) : Careful m := by
  intro s
  obtain ⟨⟨a, ha⟩, hclient⟩ := hm s
  refine ⟨by rw [hclient], fun e he => ?_⟩
  rw [ha] at he
  cases he

/-- What is careful may come after something quiet. -/
theorem Quiet.bind (hm : Quiet m) (hf : ∀ a, Careful (f a)) : Careful (m >>= f) := by
  intro s
  have hfirst := hm s
  rw [effect_bind]
  rcases hs : effect m s with ⟨out, s'⟩
  rw [hs] at hfirst
  obtain ⟨hinstance, hregistry⟩ := hfirst
  cases out with
  | error e => exact ⟨hregistry, fun _ _ => hinstance⟩
  | ok a =>
      obtain ⟨hregistry', hfailed⟩ := hf a s'
      exact ⟨hregistry'.trans hregistry, fun e he => (hfailed e he).trans hinstance⟩

/-- What is careful may be followed by something final. -/
theorem Careful.bind (hm : Careful m) (hf : ∀ a, Final (f a)) : Careful (m >>= f) := by
  intro s
  have hfirst := hm s
  rw [effect_bind]
  rcases hs : effect m s with ⟨out, s'⟩
  rw [hs] at hfirst
  obtain ⟨hregistry, hfailed⟩ := hfirst
  cases out with
  | error e =>
      refine ⟨hregistry, fun e' he => ?_⟩
      cases he
      exact hfailed e rfl
  | ok a =>
      obtain ⟨⟨b, hb⟩, hclient⟩ := hf a s'
      refine ⟨by rw [hclient, hregistry], fun e he => ?_⟩
      rw [hb] at he
      cases he

theorem Final.bind (hm : Final m) (hf : ∀ a, Final (f a)) : Final (m >>= f) := by
  intro s
  obtain ⟨⟨a, ha⟩, hclient⟩ := hm s
  rw [effect_bind_ok (Prod.ext ha rfl : effect m s = (.ok a, (effect m s).2))]
  obtain ⟨hb, hclient'⟩ := hf a (effect m s).2
  exact ⟨hb, hclient'.trans hclient⟩

theorem quiet_current : Quiet (current : InstanceM σ Instance) :=
  fun _ => ⟨rfl, rfl⟩

theorem quiet_liftM (x : Except Error α) : Quiet (liftM x : InstanceM σ α) :=
  fun _ => ⟨rfl, rfl⟩

theorem quiet_onClient {m : ClientM σ α} (hm : Client.Keeps m) : Quiet (onClient m) :=
  fun s => ⟨rfl, hm s.2⟩

theorem quiet_pure (a : α) : Quiet (pure a : InstanceM σ α) := fun _ => ⟨rfl, rfl⟩

theorem final_pure (a : α) : Final (pure a : InstanceM σ α) :=
  fun _ => ⟨⟨a, rfl⟩, rfl⟩

theorem final_replace (i : Instance) : Final (replace i : InstanceM σ Unit) :=
  fun _ => ⟨⟨(), rfl⟩, rfl⟩

theorem Careful.unit (hm : Careful m) : Careful (do let _ ← m) := hm.bind fun _ => final_pure ()

end InstanceM

open InstanceM

theorem Instance.careful_assign (name : String) (v : Value) :
    Careful (Instance.assign name v : InstanceM σ Unit) :=
  quiet_current.bind fun i => (quiet_liftM (i.set name v)).bind fun j => (final_replace j).careful

variable [Pool σ]

namespace Query

theorem keeps_update (q : Query) (assignments : List (String × Operand)) :
    Client.Keeps (q.update assignments : ClientM σ Nat) :=
  (Client.keeps_liftM _).bind fun s => Client.keeps_execute _ _ s

theorem keeps_delete (q : Query) : Client.Keeps (q.delete : ClientM σ Nat) :=
  (Client.keeps_liftM _).bind fun s => Client.keeps_execute _ _ s

theorem careful_insert (q : Query) : Careful (q.insert : InstanceM σ Unit) := by
  refine quiet_current.bind fun i => (quiet_liftM (q.insertStatement i)).bind fun s => ?_
  split
  · exact (quiet_onClient (Client.keeps_fetchOne _ _ s)).bind fun row => (final_replace _).careful
  · exact (quiet_onClient (Client.keeps_execute _ _ s)).bind fun n => (final_replace _).careful

end Query

theorem Instance.careful_save : Careful (Instance.save : InstanceM σ SaveOutcome) := by
  refine quiet_current.bind fun i => ?_
  split
  · -- a row that is not stored yet
    exact (Query.careful_insert _).bind fun _ => final_pure _
  · refine (quiet_liftM (i.identityFilter "save")).bind fun condition => ?_
    split
    · exact (quiet_pure _).careful
    · refine (quiet_onClient (Query.keeps_update _ _)).bind fun n => ?_
      exact ((final_replace _).bind fun _ => final_pure _).careful

theorem Instance.careful_delete : Careful (Instance.delete : InstanceM σ Nat) := by
  refine quiet_current.bind fun i => ?_
  split
  · exact (quiet_liftM (.error i.notSaved)).careful
  · refine (quiet_liftM (i.identityFilter "delete")).bind fun condition => ?_
    refine (quiet_onClient (Query.keeps_delete _)).bind fun n => ?_
    exact ((final_replace _).bind fun _ => final_pure _).careful

theorem Action.careful_run (a : Action) : Careful (a.run : InstanceM σ Unit) := by
  cases a with
  | set name v => exact Instance.careful_assign name v
  | save => exact Instance.careful_save.unit
  | delete => exact Instance.careful_delete.unit
  | insert q => exact q.careful_insert

/-! ## All operations -/

/-- **Every operation but a registration is careful.** -/
theorem Operation.careful_run {o : Operation} (ho : ∀ shape, o ≠ .register shape) :
    Careful (o.run : InstanceM σ Unit) := by
  cases o with
  | register shape => exact absurd rfl (ho shape)
  | createTables => exact (quiet_onClient Client.keeps_createTables).careful
  | close => exact (quiet_onClient fun _ => rfl).careful
  | fetch q => exact (quiet_onClient (Client.Keeps.answered (Client.keeps_fetch _ _))).careful.unit
  | fetchColumns q columns =>
      exact (quiet_onClient (Client.Keeps.answered (Client.keeps_fetch _ _))).careful.unit
  | fetchOne q =>
      exact (quiet_onClient (Client.Keeps.answered (Client.keeps_fetchOne _ _))).careful.unit
  | fetchOneColumns q columns =>
      exact (quiet_onClient (Client.Keeps.answered (Client.keeps_fetchOne _ _))).careful.unit
  | update q assignments => exact (quiet_onClient (q.keeps_update assignments)).careful.unit
  | deleteRows q => exact (quiet_onClient q.keeps_delete).careful.unit
  | act a => exact a.careful_run

/-- A shape that is refused leaves everything as it was. -/
theorem Operation.effect_register_error {shape : Shape} {e : Error}
    (h : Schema.ofShape shape = .error e) (i : Instance) (c : Client σ) :
    effect (Operation.register shape).run (i, c) = (.error e, (i, c)) := by
  rw [run, effect_bind, effect_onClient, Client.effect_register_error h]

/-- **Nothing is changed by an operation that fails.** -/
theorem Operation.unchanged_of_error {o : Operation} {i : Instance} {c : Client σ} {e : Error}
    (h : (effect o.run (i, c)).1 = .error e) :
    (effect o.run (i, c)).2.1 = i ∧ (effect o.run (i, c)).2.2.registry = c.registry := by
  by_cases ho : ∃ shape, o = .register shape
  · obtain ⟨shape, rfl⟩ := ho
    cases hshape : Schema.ofShape shape with
    | error e' =>
        rw [effect_register_error hshape]
        exact ⟨rfl, rfl⟩
    | ok s =>
        -- a shape that is accepted is registered
        rw [run, effect_bind, effect_onClient, Client.effect_register_ok hshape] at h
        cases h
  · obtain ⟨hregistry, hfailed⟩ := careful_run (fun shape heq => ho ⟨shape, heq⟩) (i, c)
    exact ⟨hfailed e h, hregistry⟩

/-! ## Connections -/

/-- Whether as many connections came back as were handed out. -/
def Recorded.IsBalanced (w : Recorded σ) : Prop := w.released = w.acquired

omit [Pool σ] in
/-- Calls that are balanced keep a pool balanced. -/
theorem Recorded.IsBalanced.append {w w' : Recorded σ} {calls : List Call} (h : w.IsBalanced)
    (hcalls : w'.calls = w.calls ++ calls)
    (hbalanced : calls.countP Call.isReleased = calls.countP Call.isAcquired) :
    w'.IsBalanced := by
  unfold IsBalanced released acquired at *
  rw [hcalls, List.countP_append, List.countP_append, h, hbalanced]

/-- What is sent on a connection neither takes nor gives one back. -/
theorem Call.balanced_sent (exchanges : List Exchange) :
    let calls := Call.acquired :: exchanges.map Call.sent ++ [.released]
    calls.countP isReleased = calls.countP isAcquired := by
  intro calls
  have hends : ∀ f : Call → Bool, (∀ x, f (.sent x) = false) →
      calls.countP f = [acquired, released].countP f := by
    intro f hf
    have hnone : (exchanges.map sent).countP f = 0 := List.countP_eq_zero.mpr (by simp [hf])
    simp only [calls, List.cons_append, List.countP_cons, List.countP_append, hnone,
      Nat.zero_add]
  rw [hends isReleased fun _ => rfl, hends isAcquired fun _ => rfl]
  rfl

namespace Client

theorem isBalanced_createTables {c : Client (Recorded σ)} (h : c.pool.IsBalanced) :
    (effect createTables c).2.pool.IsBalanced := by
  unfold createTables
  cases hpool : (Pool.acquire c.pool).1 with
  | error e => exact h.append (withConnection_refused hpool).2.calls rfl
  | ok u =>
      obtain ⟨m, -, hall⟩ := createAll_run c.holding
      exact h.append (withConnection_granted hpool hall).calls (Call.balanced_sent _)

/-- **Each operation gives its connections back.** -/
theorem isBalanced_after {c : Client (Recorded σ)} (h : c.pool.IsBalanced)
    (step : Instance × Operation) : (c.after step).pool.IsBalanced := by
  obtain ⟨i, o⟩ := step
  by_cases ho : o = .createTables
  · rw [ho]
    exact isBalanced_createTables h
  · have hconduct := o.conducts_run ho i c
    unfold after
    unfold conduct at hconduct
    generalize (effect o.run (i, c)).1 = out, (effect o.run (i, c)).2.2 = c',
      o.statement i = x at hconduct ⊢
    cases hconduct with
    | rejected hgrows => exact h.append hgrows.calls rfl
    | idle hgrows => exact h.append hgrows.calls rfl
    | refused hpool hgrows => exact h.append hgrows.calls rfl
    | sent hpool hout hgrows => exact h.append hgrows.calls rfl

theorem isBalanced_history {c : Client (Recorded σ)} (h : c.pool.IsBalanced)
    (history : List (Instance × Operation)) : (history.foldl after c).pool.IsBalanced := by
  induction history generalizing c with
  | nil => exact h
  | cons step history ih => exact ih (isBalanced_after h step)

end Client

/-- **A failing operation leaves everything as it was.**

Whatever was done with a client before, on whatever instances: an operation that fails leaves its
instance and the list of entities as they were, and after an operation, failed or not, as many
connections have come back as were handed out. -/
theorem failure_leaves_no_trace (start : Client σ) (history : List (Instance × Operation))
    (o : Operation) (i : Instance) :
    let c := history.foldl Client.after start.recorded
    let r := effect o.run (i, c)
    (∀ e, r.1 = .error e → r.2.1 = i ∧ r.2.2.entities = c.entities) ∧
      r.2.2.pool.released = r.2.2.pool.acquired := by
  intro c r
  have hstart : start.recorded.pool.IsBalanced := rfl
  have hbefore : c.pool.IsBalanced := Client.isBalanced_history hstart history
  refine ⟨fun e he => ?_, Client.isBalanced_after hbefore (i, o)⟩
  obtain ⟨hinstance, hregistry⟩ := Operation.unchanged_of_error he
  exact ⟨hinstance, (Prod.mk.inj hregistry).2⟩

/-- An update that fails on its way, after a connection was used and given back. -/
theorem failure_leaves_no_trace_update :
    let changed : Instance :=
      ⟨Entity.tasks, [⟨some (.int 1), false⟩, ⟨some (.int 6), true⟩], true, some (.int 1)⟩
    let start := Client.connect 0 {} ({ failure := some "connection reset" } : ScriptedPool)
    let c := [(changed, Operation.createTables)].foldl Client.after start.recorded
    let r := effect (Operation.act .save).run (changed, c)
    r.1 = .error (.other "connection reset") ∧ r.2.1 = changed ∧ r.2.2.entities = c.entities
      ∧ r.2.2.pool.released = r.2.2.pool.acquired ∧ r.2.2.pool.acquired = 2 := by
  intro changed start c r
  have hfails : r.1 = .error (.other "connection reset") := rfl
  obtain ⟨hfailed, hreturned⟩ :=
    failure_leaves_no_trace start [(changed, .createTables)] (.act .save) changed
  obtain ⟨hinstance, hentities⟩ := hfailed _ hfails
  exact ⟨hfails, hinstance, hentities, hreturned, rfl⟩

end EntityMapper
