import EntityMapper.Proofs.Recording

/-!
# Recording changes nothing

An operation is the same program on every pool, so all it can know of a pool is what the pool
answers. Here this is made exact. A view takes each state of one pool to a state of another that
answers alike; then an operation has the same outcome on both, and its states correspond. A recorded
pool is viewed by leaving out what was recorded, so an operation has the same outcome and leaves the
same instance and the same entities whether its pool is recorded or not.
-/

namespace EntityMapper

open Sql

variable {α β : Type}

/-! ## Operations on two states -/

section

variable {S T : Type} {φ : S → T}

/-- Whether two operations have the same outcome and leave states that correspond. -/
def Agrees (φ : S → T) (m : ExceptT Error (StateM S) α) (m' : ExceptT Error (StateM T) α) : Prop :=
  ∀ s, effect m' (φ s) = ((effect m s).1, φ (effect m s).2)

theorem Agrees.bind {m : ExceptT Error (StateM S) α} {m' : ExceptT Error (StateM T) α}
    {f : α → ExceptT Error (StateM S) β} {f' : α → ExceptT Error (StateM T) β}
    (hm : Agrees φ m m') (hf : ∀ a, Agrees φ (f a) (f' a)) : Agrees φ (m >>= f) (m' >>= f') := by
  intro s
  rw [effect_bind, effect_bind, hm s]
  rcases effect m s with ⟨out, s'⟩
  cases out with
  | error e => rfl
  | ok a => exact hf a s'

theorem agrees_pure (φ : S → T) (a : α) : Agrees φ (pure a) (pure a) := fun _ => rfl

theorem agrees_liftM (φ : S → T) (x : Except Error α) : Agrees φ (liftM x) (liftM x) :=
  fun _ => rfl

end

/-! ## Clients -/

variable {σ τ : Type} {view : τ → σ}

/-- Whether a pool answers as the view of it does. -/
structure IsView [Pool σ] [Pool τ] (view : τ → σ) : Prop where
  acquire : ∀ p, Pool.acquire (view p) = ((Pool.acquire p).1, view (Pool.acquire p).2)
  release : ∀ p, Pool.release (view p) = view (Pool.release p)
  execute : ∀ s p, Pool.execute s (view p) = ((Pool.execute s p).1, view (Pool.execute s p).2)
  fetch : ∀ s p, Pool.fetch s (view p) = ((Pool.fetch s p).1, view (Pool.fetch s p).2)

namespace Client

/-- The client with a view of its pool. -/
def seen (view : τ → σ) (c : Client τ) : Client σ := { c with pool := view c.pool }

theorem agrees_note (e : Event) :
    Agrees (seen view) (modify fun c => c.note e) (modify fun c => c.note e) := fun _ => rfl

theorem agrees_onPool {f : τ → Except Error α × τ} {g : σ → Except Error α × σ}
    (h : ∀ p, g (view p) = ((f p).1, view (f p).2)) :
    Agrees (seen view) (onPool f) (onPool g) := by
  intro c
  rw [effect_onPool, effect_onPool]
  change ((g (view c.pool)).1, ({ seen view c with pool := (g (view c.pool)).2 } : Client σ)) = _
  rw [h]
  rfl

theorem agrees_logStatement (entity : String) (kind : StatementKind) (s : Statement) :
    Agrees (seen view) (logStatement entity kind s) (logStatement entity kind s) := by
  intro c
  rw [effect_logStatement, effect_logStatement]
  cases h : c.config.logStatements <;> simp [seen, h, note]

variable [Pool σ] [Pool τ]

theorem agrees_withConnection (hv : IsView view) {m : ClientM τ α} {m' : ClientM σ α}
    (hm : Agrees (seen view) m m') :
    Agrees (seen view) (withConnection m) (withConnection m') := by
  intro c
  have hacquire : Pool.acquire (seen view c).pool = _ := hv.acquire c.pool
  rw [effect_withConnection, effect_withConnection, hacquire]
  rcases Pool.acquire c.pool with ⟨out, p⟩
  cases out with
  | error e => rfl
  | ok u =>
      let held : Client τ := ({ c with pool := p } : Client τ).note .acquired
      change ((effect m' (seen view held)).1, Client.note { (effect m' (seen view held)).2 with
        pool := Pool.release (effect m' (seen view held)).2.pool } .released) = _
      rw [hm held]
      exact Prod.ext rfl (congrArg (fun pool => note { seen view _ with pool } _) (hv.release _))

theorem agrees_execute (hv : IsView view) (entity : String) (kind : StatementKind)
    (s : Statement) : Agrees (seen view) (execute entity kind s) (execute entity kind s) :=
  (agrees_logStatement entity kind s).bind fun _ =>
    agrees_withConnection hv ((agrees_note (.sent s)).bind fun _ => agrees_onPool (hv.execute s))

theorem agrees_fetch (hv : IsView view) (entity : String) (kind : StatementKind)
    (s : Statement) : Agrees (seen view) (fetch entity kind s) (fetch entity kind s) :=
  (agrees_logStatement entity kind s).bind fun _ =>
    agrees_withConnection hv ((agrees_note (.sent s)).bind fun _ => agrees_onPool (hv.fetch s))

theorem agrees_fetchOne (hv : IsView view) (entity : String) (kind : StatementKind)
    (s : Statement) : Agrees (seen view) (fetchOne entity kind s) (fetchOne entity kind s) :=
  (agrees_fetch hv entity kind s).bind fun rows => agrees_pure _ rows.head?

end Client

/-! ## Instances -/

namespace InstanceM

/-- The instance and the client with a view of its pool. -/
def seen (view : τ → σ) (s : Instance × Client τ) : Instance × Client σ := (s.1, s.2.seen view)

theorem agrees_current : Agrees (seen view) current current := fun _ => rfl

theorem agrees_replace (i : Instance) : Agrees (seen view) (replace i) (replace i) := fun _ => rfl

theorem agrees_onClient {m : ClientM τ α} {m' : ClientM σ α}
    (hm : Agrees (Client.seen view) m m') : Agrees (seen view) (onClient m) (onClient m') := by
  intro s
  rw [seen, effect_onClient, hm s.2]
  rfl

theorem agrees_assign (name : String) (v : Value) :
    Agrees (seen view) (Instance.assign name v) (Instance.assign name v) :=
  agrees_current.bind fun i => (agrees_liftM _ (i.set name v)).bind agrees_replace

variable [Pool σ] [Pool τ]

theorem agrees_insert (hv : IsView view) (q : Query) :
    Agrees (seen view) q.insert q.insert := by
  refine agrees_current.bind fun i => (agrees_liftM _ (q.insertStatement i)).bind fun s => ?_
  by_cases h : q.returnsGenerated i = true
  · simp only [if_pos h]
    exact (agrees_onClient (Client.agrees_fetchOne hv _ _ s)).bind fun row => agrees_replace _
  · simp only [if_neg h]
    exact (agrees_onClient (Client.agrees_execute hv _ _ s)).bind fun n => agrees_replace _

theorem agrees_update (hv : IsView view) (q : Query) (assignments : List (String × Operand)) :
    Agrees (Client.seen view) (q.update assignments) (q.update assignments) :=
  (agrees_liftM _ (q.updateStatement assignments)).bind fun s => Client.agrees_execute hv _ _ s

theorem agrees_deleteRows (hv : IsView view) (q : Query) :
    Agrees (Client.seen view) q.delete q.delete :=
  (agrees_liftM _ q.deleteStatement).bind fun s => Client.agrees_execute hv _ _ s

theorem agrees_save (hv : IsView view) : Agrees (seen view) Instance.save Instance.save := by
  refine agrees_current.bind fun i => ?_
  by_cases hsaved : i.isSaved = true
  · simp only [hsaved, Bool.not_true, Bool.false_eq_true, if_false]
    refine (agrees_liftM _ (i.identityFilter "save")).bind fun condition => ?_
    by_cases hdirty : i.isDirty = true
    · simp only [hdirty, Bool.not_true, Bool.false_eq_true, if_false]
      exact (agrees_onClient (agrees_update hv _ _)).bind fun n =>
        (agrees_replace _).bind fun _ => agrees_pure _ _
    · simp only [hdirty]
      exact agrees_pure _ _
  · simp only [hsaved]
    exact (agrees_insert hv _).bind fun _ => agrees_pure _ _

theorem agrees_delete (hv : IsView view) : Agrees (seen view) Instance.delete Instance.delete := by
  refine agrees_current.bind fun i => ?_
  by_cases hsaved : i.isSaved = true
  · simp only [hsaved, Bool.not_true, Bool.false_eq_true, if_false]
    refine (agrees_liftM _ (i.identityFilter "delete")).bind fun condition => ?_
    exact (agrees_onClient (agrees_deleteRows hv _)).bind fun n =>
      (agrees_replace _).bind fun _ => agrees_pure _ _
  · simp only [hsaved]
    exact agrees_liftM _ (.error i.notSaved)

end InstanceM

/-! ## Operations -/

variable [Pool σ] [Pool τ]

theorem Action.agrees_run (hv : IsView view) (a : Action) :
    Agrees (InstanceM.seen view) (a.run : InstanceM τ Unit) (a.run : InstanceM σ Unit) := by
  cases a with
  | set name v => exact InstanceM.agrees_assign name v
  | save => exact (InstanceM.agrees_save hv).bind fun _ => agrees_pure _ _
  | delete => exact (InstanceM.agrees_delete hv).bind fun _ => agrees_pure _ _
  | insert q => exact InstanceM.agrees_insert hv q

theorem isView_recorded : IsView (Recorded.pool : Recorded σ → σ) :=
  ⟨fun _ => rfl, fun _ => rfl, fun _ _ => rfl, fun _ _ => rfl⟩

/-- **What an action comes to does not depend on being recorded.** -/
theorem Action.effect_run (a : Action) (i : Instance) (c : Client σ) :
    effect a.run (i, c) = ((effect a.run (i, c.recorded)).1,
      InstanceM.seen Recorded.pool (effect a.run (i, c.recorded)).2) :=
  a.agrees_run isView_recorded (i, c.recorded)

end EntityMapper
