import EntityMapper.Client.Operations

/-!
# What operations do

An operation of a client, or of an instance and a client, has an outcome and leaves a state, also
when it fails. Here both are worked out once: for the steps that operations are put together from,
and then for taking a connection and sending a statement on it. `Operation` lists what a program can
ask for at all, on any pool.
-/

namespace EntityMapper

open Sql

variable {S α β : Type}

/-- The outcome of an operation and the state that it leaves. -/
def effect (m : ExceptT Error (StateM S) α) (s : S) : Except Error α × S := m.run.run s

theorem effect_bind (m : ExceptT Error (StateM S) α) (f : α → ExceptT Error (StateM S) β) (s : S) :
    effect (m >>= f) s = match effect m s with
      | (.ok a, s') => effect (f a) s'
      | (.error e, s') => (.error e, s') := by
  change ExceptT.bindCont f (effect m s).1 (effect m s).2 = _
  rcases effect m s with ⟨out, s'⟩
  cases out <;> rfl

theorem effect_bind_ok {m : ExceptT Error (StateM S) α} {s s' : S} {a : α}
    (h : effect m s = (.ok a, s')) (f : α → ExceptT Error (StateM S) β) :
    effect (m >>= f) s = effect (f a) s' := by
  rw [effect_bind, h]

theorem effect_bind_error {m : ExceptT Error (StateM S) α} {s s' : S} {e : Error}
    (h : effect m s = (.error e, s')) (f : α → ExceptT Error (StateM S) β) :
    effect (m >>= f) s = (.error e, s') := by
  rw [effect_bind, h]

theorem effect_map (m : ExceptT Error (StateM S) α) (g : α → β) (s : S) :
    effect (do return g (← m)) s = ((effect m s).1.map g, (effect m s).2) := by
  rw [effect_bind]
  rcases effect m s with ⟨out, s'⟩
  cases out <;> rfl

theorem effect_liftM_ok {x : Except Error α} {a : α} (h : x = .ok a)
    (f : α → ExceptT Error (StateM S) β) (s : S) :
    effect ((liftM x : ExceptT Error (StateM S) α) >>= f) s = effect (f a) s := by
  rw [h]
  exact effect_bind_ok rfl f

theorem effect_liftM_error {x : Except Error α} {e : Error} (h : x = .error e)
    (f : α → ExceptT Error (StateM S) β) (s : S) :
    effect ((liftM x : ExceptT Error (StateM S) α) >>= f) s = (.error e, s) := by
  rw [h]
  exact effect_bind_error rfl f

namespace Client

variable {σ : Type}

theorem effect_onPool (f : σ → Except Error α × σ) (c : Client σ) :
    effect (onPool f) c = ((f c.pool).1, { c with pool := (f c.pool).2 }) := rfl

theorem effect_logStatement (entity : String) (kind : StatementKind) (s : Statement)
    (c : Client σ) : effect (logStatement entity kind s) c
      = (.ok (), if c.config.logStatements
          then c.note (.logged (statementEntry c.config entity kind s)) else c) := by
  have hget : effect (get : ClientM σ (Client σ)) c = (.ok c, c) := rfl
  rw [logStatement, effect_bind_ok hget]
  by_cases h : c.config.logStatements = true
  · rw [if_pos h]
    simp only [h, if_true]
    rfl
  · rw [if_neg h]
    simp only [h]
    rfl

/-- Logging a statement does nothing to the pool. -/
theorem pool_logStatement (entity : String) (kind : StatementKind) (s : Statement)
    (c : Client σ) : (effect (logStatement entity kind s) c).2.pool = c.pool := by
  rw [effect_logStatement]
  by_cases h : c.config.logStatements = true
  · rw [if_pos h]
    rfl
  · rw [if_neg h]

variable [Pool σ]

/-- With a connection an action does what it does, and the connection goes back; without one it does
nothing. -/
theorem effect_withConnection (action : ClientM σ α) (c : Client σ) :
    effect (withConnection action) c = match Pool.acquire c.pool with
      | (.error e, p) => (.error e, { c with pool := p })
      | (.ok _, p) =>
        let r := effect action ({ c with pool := p }.note .acquired)
        (r.1, { r.2 with pool := Pool.release r.2.pool }.note .released) := by
  rw [withConnection, effect_bind, effect_onPool]
  rcases Pool.acquire c.pool with ⟨out, p⟩
  cases out <;> rfl

end Client

/-! ## Instances -/

namespace InstanceM

variable {σ : Type}

/-- An operation that looks at the instance first goes on with it. -/
theorem effect_current (f : Instance → InstanceM σ α) (i : Instance) (c : Client σ) :
    effect (current >>= f) (i, c) = effect (f i) (i, c) := effect_bind_ok rfl f

theorem effect_onClient (action : ClientM σ α) (i : Instance) (c : Client σ) :
    effect (onClient action) (i, c) = ((effect action c).1, (i, (effect action c).2)) := rfl

theorem effect_onClient_congr {m m' : ClientM σ β} {c : Client σ} (h : effect m c = effect m' c)
    (f : β → InstanceM σ α) (i : Instance) :
    effect (onClient m >>= f) (i, c) = effect (onClient m' >>= f) (i, c) := by
  rw [effect_bind, effect_bind, effect_onClient, effect_onClient, h]

theorem effect_onClient_error {m : ClientM σ β} {c c' : Client σ} {e : Error}
    (h : effect m c = (.error e, c')) (f : β → InstanceM σ α) (i : Instance) :
    effect (onClient m >>= f) (i, c) = (.error e, (i, c')) := by
  rw [effect_bind, effect_onClient, h]

/-- Of several rows the first one counts. -/
theorem effect_fetchOne [Pool σ] (entity : String) (kind : StatementKind) (s : Statement)
    (f : Option Record → InstanceM σ α) (i : Instance) (c : Client σ) :
    effect (onClient (Client.fetchOne entity kind s) >>= f) (i, c)
      = effect (onClient (Client.fetch entity kind s) >>= fun rows => f rows.head?) (i, c) := by
  rw [effect_bind, effect_bind, effect_onClient, effect_onClient, Client.fetchOne, effect_bind]
  rcases effect (Client.fetch entity kind s) c with ⟨out, c'⟩
  cases out <;> rfl

/-- Setting a column does nothing to the client. -/
theorem effect_assign (name : String) (v : Value) (i : Instance) (c : Client σ) :
    effect (Instance.assign name v : InstanceM σ Unit) (i, c) = match i.set name v with
      | .ok j => (.ok (), (j, c))
      | .error e => (.error e, (i, c)) := by
  rw [Instance.assign, effect_current]
  cases h : i.set name v with
  | error e => exact effect_liftM_error rfl _ _
  | ok j => exact effect_liftM_ok rfl _ _

end InstanceM

/-! ## What can be asked for -/

/-- Something that is done to an instance. -/
inductive Action where
  | set (name : String) (v : Value)
  | save
  | delete
  /-- The instance is stored as a new row by a query. -/
  | insert (q : Query)

/-- Something that is asked of a client, or of an instance and a client. -/
inductive Operation where
  | register (shape : Shape)
  | createTables
  | close
  | fetch (q : Query)
  | fetchColumns (q : Query) (columns : List String)
  | fetchOne (q : Query)
  | fetchOneColumns (q : Query) (columns : List String)
  | update (q : Query) (assignments : List (String × Operand))
  | deleteRows (q : Query)
  | act (a : Action)

variable {σ : Type} [Pool σ]

/-- Does what an action says; what comes of a success is not looked at. -/
def Action.run : Action → InstanceM σ Unit
  | set name v => Instance.assign name v
  | save => do let _ ← Instance.save
  | delete => do let _ ← Instance.delete
  | insert q => q.insert

open InstanceM in
/-- Does what is asked. -/
def Operation.run : Operation → InstanceM σ Unit
  | register shape => do let _ ← onClient (Client.register shape)
  | createTables => onClient Client.createTables
  | close => onClient Client.close
  | fetch q => do let _ ← onClient q.fetch
  | fetchColumns q columns => do let _ ← onClient (q.fetchColumns columns)
  | fetchOne q => do let _ ← onClient q.fetchOne
  | fetchOneColumns q columns => do let _ ← onClient (q.fetchOneColumns columns)
  | update q assignments => do let _ ← onClient (q.update assignments)
  | deleteRows q => do let _ ← onClient q.delete
  | act a => a.run

/-- The client after an operation on some instance. -/
def Client.after (c : Client σ) (step : Instance × Operation) : Client σ :=
  (effect step.2.run (step.1, c)).2.2

end EntityMapper
