import EntityMapper.Proofs.Effects

/-!
# Recorded pools

To say what was done with a pool, the pool is recorded: a recorded pool behaves as the pool it is
made of and keeps each call that is made of it, a statement together with its answer. Of the calls
one can look at a part: the exchanges with the database, or how many connections are outside. The
log is followed along, as each statement has a line there.

`Grows` says what a client added to both, and `Dispatches` how a statement can go that is logged and
sent: there is no connection for it, or it is sent, once and on a connection of its own.
-/

namespace EntityMapper

open Sql (Statement)

variable {σ α β : Type}

/-! ## Calls -/

/-- A statement with what the pool answered. Where only a count was asked for, there are no rows. -/
structure Exchange where
  statement : Statement
  /-- The rows, or why there are none. -/
  answer : Except Error (List Record)

/-- Something that a client asked of a pool. -/
inductive Call where
  /-- A connection, which was refused. -/
  | refused
  /-- A connection, which was handed out. -/
  | acquired
  | sent (x : Exchange)
  | released

namespace Call

/-- The exchange of a call, if it is one. -/
def exchange? : Call → Option Exchange
  | sent x => some x
  | refused | acquired | released => none

/-- Whether a connection was handed out. -/
def isAcquired : Call → Bool
  | acquired => true
  | refused | sent _ | released => false

/-- Whether a connection came back. -/
def isReleased : Call → Bool
  | released => true
  | refused | acquired | sent _ => false

theorem filterMap_sent (exchanges : List Exchange) :
    (exchanges.map sent).filterMap exchange? = exchanges := by
  rw [List.filterMap_map]
  exact List.filterMap_some

end Call

/-- A pool with the calls that were made of it, first one first. -/
structure Recorded (σ : Type) where
  pool : σ
  calls : List Call

namespace Recorded

instance [Pool σ] : Pool (Recorded σ) where
  acquire w :=
    let (outcome, pool) := Pool.acquire w.pool
    (outcome, ⟨pool, w.calls ++ [if outcome.isOk then .acquired else .refused]⟩)
  release w := ⟨Pool.release w.pool, w.calls ++ [.released]⟩
  execute s w :=
    let (outcome, pool) := Pool.execute s w.pool
    (outcome, ⟨pool, w.calls ++ [.sent ⟨s, outcome.map fun _ => []⟩]⟩)
  fetch s w :=
    let (outcome, pool) := Pool.fetch s w.pool
    (outcome, ⟨pool, w.calls ++ [.sent ⟨s, outcome⟩]⟩)
  close w := { w with pool := Pool.close w.pool }

/-- The exchanges that went through a pool. -/
def exchanges (w : Recorded σ) : List Exchange := w.calls.filterMap Call.exchange?

/-- How many connections were handed out. -/
def acquired (w : Recorded σ) : Nat := w.calls.countP Call.isAcquired

/-- How many came back. -/
def released (w : Recorded σ) : Nat := w.calls.countP Call.isReleased

theorem calls_acquire [Pool σ] (w : Recorded σ) : (Pool.acquire w).2.calls
    = w.calls ++ [if (Pool.acquire w).1.isOk then .acquired else .refused] := rfl

end Recorded

/-- The client with its pool recorded from now on. -/
def Client.recorded (c : Client σ) : Client (Recorded σ) := { c with pool := ⟨c.pool, []⟩ }

/-! ## Lines of the log -/

/-- What the log tells of a statement. -/
structure Line where
  paramCount : Nat
  sql : String
deriving DecidableEq, Repr

/-- The line in an entry of the log, if it is about a statement. -/
def LogEntry.line? : LogEntry → Option Line
  | .statement _ _ paramCount sql => some ⟨paramCount, sql⟩
  | .registered .. | .createdTables .. => none

/-- The line in an event. -/
def Event.line? : Event → Option Line
  | .logged entry => entry.line?
  | .acquired | .released | .sent _ => none

/-- The line that a statement has to have. -/
def Config.line (config : Config) (s : Statement) : Line :=
  ⟨s.params.length, loggedSql config.maxSqlLogLength s.sql⟩

/-- The lines of some statements, if statements are logged. -/
def Config.lines (config : Config) (statements : List Statement) : List Line :=
  if config.logStatements then statements.map config.line else []

theorem Config.lines_append (config : Config) (statements statements' : List Statement) :
    config.lines (statements ++ statements')
      = config.lines statements ++ config.lines statements' := by
  unfold lines
  split
  · exact List.map_append
  · rfl

namespace Client

/-- The lines in the log of a client. -/
def lines (c : Client σ) : List Line := c.journal.filterMap Event.line?

theorem lines_note (c : Client σ) (e : Event) :
    (c.note e).lines = c.lines ++ e.line?.toList := by
  cases h : e.line? <;> simp [lines, note, h]

end Client

/-! ## What a client adds -/

/-- From one state to another a client tried to send some statements, and made some calls of its
pool. Statements that it tried to send are logged. -/
structure Grows (c c' : Client (Recorded σ)) (tried : List Statement) (calls : List Call) :
    Prop where
  config : c'.config = c.config
  lines : c'.lines = c.lines ++ c.config.lines tried
  calls : c'.pool.calls = c.pool.calls ++ calls

theorem Grows.refl (c : Client (Recorded σ)) : Grows c c [] [] :=
  ⟨rfl, by simp [Config.lines], (List.append_nil _).symm⟩

theorem Grows.trans {c₁ c₂ c₃ : Client (Recorded σ)} {tried tried' : List Statement}
    {calls calls' : List Call} (h : Grows c₁ c₂ tried calls) (h' : Grows c₂ c₃ tried' calls') :
    Grows c₁ c₃ (tried ++ tried') (calls ++ calls') := by
  refine ⟨h'.config.trans h.config, ?_, ?_⟩
  · rw [h'.lines, h.lines, h.config, List.append_assoc, Config.lines_append]
  · rw [h'.calls, h.calls, List.append_assoc]

namespace Client

variable {c : Client (Recorded σ)}

/-- What has no line leaves the lines as they are. -/
theorem grows_note {e : Event} (h : e.line? = none) : Grows c (c.note e) [] [] := by
  refine ⟨rfl, ?_, (Grows.refl c).calls⟩
  rw [lines_note, h, Option.toList_none, List.append_nil]
  exact (Grows.refl c).lines

theorem grows_logStatement (entity : String) (kind : StatementKind) (s : Statement) :
    Grows c (effect (logStatement entity kind s) c).2 [s] [] := by
  rw [effect_logStatement]
  by_cases h : c.config.logStatements = true
  · rw [if_pos h]
    refine ⟨rfl, ?_, (Grows.refl c).calls⟩
    rw [lines_note, Config.lines, if_pos h]
    rfl
  · rw [if_neg h]
    exact ⟨rfl, by simp [Config.lines, h], (Grows.refl c).calls⟩

/-- What comes after a line goes on with the line and the same pool. -/
theorem exists_logged (entity : String) (kind : StatementKind) (s : Statement)
    (c : Client (Recorded σ)) :
    ∃ logged, logged.pool = c.pool ∧ Grows c logged [s] [] ∧ ∀ {α : Type}
      (m : ClientM (Recorded σ) α),
      effect (do logStatement entity kind s; m) c = effect m logged := by
  refine ⟨_, pool_logStatement entity kind s c, grows_logStatement entity kind s, fun m => ?_⟩
  have hdone : effect (logStatement entity kind s) c
      = (.ok (), (effect (logStatement entity kind s) c).2) := by rw [effect_logStatement]
  exact effect_bind_ok hdone _

variable [Pool σ]

theorem grows_sendExecute (s : Statement) :
    let r := effect (sendExecute s) c
    Grows c r.2 [] [.sent ⟨s, r.1.map fun _ => []⟩] :=
  ⟨rfl, (grows_note (c := c) (e := .sent s) rfl).lines, rfl⟩

theorem grows_sendFetch (s : Statement) :
    let r := effect (sendFetch s) c
    Grows c r.2 [] [.sent ⟨s, r.1⟩] :=
  ⟨rfl, (grows_note (c := c) (e := .sent s) rfl).lines, rfl⟩

/-- The client with a connection. -/
def holding (c : Client (Recorded σ)) : Client (Recorded σ) :=
  { c with pool := (Pool.acquire c.pool).2 }.note .acquired

theorem withConnection_refused {m : ClientM (Recorded σ) α} {e : Error}
    (h : (Pool.acquire c.pool).1 = .error e) :
    (effect (withConnection m) c).1 = .error e
      ∧ Grows c (effect (withConnection m) c).2 [] [.refused] := by
  have hcalls := Recorded.calls_acquire c.pool
  rw [effect_withConnection]
  rcases hp : Pool.acquire c.pool with ⟨out, p⟩
  rw [hp] at h hcalls
  obtain rfl : out = .error e := h
  exact ⟨rfl, rfl, (Grows.refl c).lines, hcalls⟩

/-- With a connection an action comes to what it comes to. -/
theorem outcome_withConnection (m : ClientM (Recorded σ) α)
    (h : (Pool.acquire c.pool).1 = .ok ()) :
    (effect (withConnection m) c).1 = (effect m c.holding).1 := by
  rw [effect_withConnection, holding]
  rcases hp : Pool.acquire c.pool with ⟨out, p⟩
  rw [hp] at h
  obtain rfl : out = .ok () := h
  rfl

/-- A connection is taken before an action and given back after it, failed or not. -/
theorem withConnection_granted {m : ClientM (Recorded σ) α} {tried : List Statement}
    {calls : List Call} (h : (Pool.acquire c.pool).1 = .ok ())
    (hm : Grows c.holding (effect m c.holding).2 tried calls) :
    Grows c (effect (withConnection m) c).2 tried (.acquired :: calls ++ [.released]) := by
  have hcalls := Recorded.calls_acquire c.pool
  have hheld : Grows c c.holding [] [.acquired] := by
    have hnote : Grows c (c.note .acquired) [] [] := grows_note rfl
    rw [h] at hcalls
    exact ⟨rfl, hnote.lines, hcalls⟩
  have hreturned : Grows (effect m c.holding).2 (effect (withConnection m) c).2 [] [.released] := by
    have hnote : Grows (effect m c.holding).2 ((effect m c.holding).2.note .released) [] [] :=
      grows_note rfl
    rw [effect_withConnection]
    unfold holding at hnote ⊢
    rcases hp : Pool.acquire c.pool with ⟨out, p⟩
    rw [hp] at h hnote
    obtain rfl : out = .ok () := h
    exact ⟨rfl, hnote.lines, rfl⟩
  simpa using (hheld.trans hm).trans hreturned

end Client

/-! ## Sending a statement -/

/-- How a statement can go that is logged and sent: the outcome, in which the answer is found with
`rows`, and the client afterwards. -/
inductive Dispatches [Pool σ] (c : Client (Recorded σ)) (s : Statement) (rows : α → List Record) :
    Except Error α × Client (Recorded σ) → Prop where
  /-- There is no connection for it. -/
  | refused {e : Error} {c' : Client (Recorded σ)} (hpool : (Pool.acquire c.pool).1 = .error e)
    (h : Grows c c' [s] [.refused]) : Dispatches c s rows (.error e, c')
  /-- It is sent, and the outcome is its answer. -/
  | sent {out : Except Error α} {c' : Client (Recorded σ)}
    (hpool : (Pool.acquire c.pool).1 = .ok ())
    (h : Grows c c' [s] [.acquired, .sent ⟨s, out.map rows⟩, .released]) :
    Dispatches c s rows (out, c')

namespace Client

variable [Pool σ] {s : Statement} {rows : α → List Record}

/-- **A logged statement goes out on a connection of its own.** -/
theorem dispatches_logged {m : ClientM (Recorded σ) α} (entity : String) (kind : StatementKind)
    (hm : ∀ c, Grows c (effect m c).2 [] [.sent ⟨s, (effect m c).1.map rows⟩])
    (c : Client (Recorded σ)) :
    Dispatches c s rows (effect (do logStatement entity kind s; withConnection m) c) := by
  obtain ⟨logged, hpool, hlog, hthen⟩ := exists_logged entity kind s c
  rw [hthen, ← Prod.eta (effect (withConnection m) logged)]
  cases hacquire : (Pool.acquire logged.pool).1 with
  | error e =>
      obtain ⟨houtcome, hrefused⟩ := withConnection_refused (m := m) hacquire
      rw [houtcome]
      exact .refused (hpool ▸ hacquire) (hlog.trans hrefused)
  | ok u =>
      have hsent := withConnection_granted (m := m) hacquire (hm _)
      rw [← outcome_withConnection m hacquire] at hsent
      exact .sent (hpool ▸ hacquire) (hlog.trans hsent)

theorem dispatches_execute (entity : String) (kind : StatementKind) (s : Statement)
    (c : Client (Recorded σ)) : Dispatches c s (fun _ => []) (effect (execute entity kind s) c) :=
  dispatches_logged entity kind (fun _ => grows_sendExecute s) c

theorem dispatches_fetch (entity : String) (kind : StatementKind) (s : Statement)
    (c : Client (Recorded σ)) :
    Dispatches c s (fun rows => rows) (effect (fetch entity kind s) c) := by
  refine dispatches_logged entity kind (fun c => ?_) c
  have hrows : (effect (sendFetch s) c).1.map (fun rows => rows) = (effect (sendFetch s) c).1 :=
    congrFun Except.map_id _
  rw [hrows]
  exact grows_sendFetch s

end Client

end EntityMapper
