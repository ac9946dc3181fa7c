import EntityMapper.Proofs.CreatingTables

/-!
# What the log tells

A statement has its line in the log before a connection is asked for, so the log tells what a client
tried to send. Where the connection is refused the line stays, although nothing was sent. Only the
tables are created on a connection that is taken first.

Along a history the lines are therefore those of some attempts, and the attempts that came to
nothing are the statements that were refused a connection. The log tells what was sent exactly if
there are none of these.
-/

namespace EntityMapper

open Sql (Statement)
open InstanceM

variable {σ : Type}

/-! ## Attempts -/

/-- A statement that was to be sent. -/
structure Attempt where
  statement : Statement
  /-- Whether it was. -/
  isSent : Bool

/-- The statements of some attempts that were sent, if `isSent`, or that were not. -/
def Attempt.ending (isSent : Bool) (attempts : List Attempt) : List Statement :=
  (attempts.filter (·.isSent == isSent)).map (·.statement)

theorem Attempt.ending_append (isSent : Bool) (attempts attempts' : List Attempt) :
    ending isSent (attempts ++ attempts') = ending isSent attempts ++ ending isSent attempts' := by
  simp [ending]

theorem Attempt.ending_false_eq_nil {attempts : List Attempt} :
    ending false attempts = [] ↔ ∀ a ∈ attempts, a.isSent = true := by
  simp [ending]

theorem Attempt.length_ending_true {attempts : List Attempt} :
    (ending true attempts).length = attempts.length ↔ ∀ a ∈ attempts, a.isSent = true := by
  rw [ending, List.length_map, List.length_filter_eq_length_iff]
  simp

theorem Attempt.ending_true_eq_map {attempts : List Attempt} (h : ∀ a ∈ attempts, a.isSent = true) :
    ending true attempts = attempts.map (·.statement) := by
  rw [ending, List.filter_eq_self.mpr (by simpa using h)]

/-- Attempts that all came to the same. -/
def Attempt.uniform (isSent : Bool) (statements : List Statement) : List Attempt :=
  statements.map (⟨·, isSent⟩)

theorem Attempt.map_statement_uniform (isSent : Bool) (statements : List Statement) :
    (uniform isSent statements).map (·.statement) = statements := by
  rw [uniform, List.map_map]
  exact List.map_id statements

theorem Attempt.ending_uniform_self (isSent : Bool) (statements : List Statement) :
    ending isSent (uniform isSent statements) = statements := by
  have hall : (uniform isSent statements).filter (·.isSent == isSent)
      = uniform isSent statements := by
    simp [uniform, List.filter_eq_self]
  rw [ending, hall, map_statement_uniform]

theorem Attempt.ending_uniform_of_ne {isSent isSent' : Bool} (h : isSent' ≠ isSent)
    (statements : List Statement) : ending isSent (uniform isSent' statements) = [] := by
  simp [ending, uniform, h]

/-- The statements that went through a client's pool. -/
def Client.sent (c : Client (Recorded σ)) : List Statement :=
  c.pool.exchanges.map (·.statement)

/-- What a client added from one state to another, told as attempts to send a statement. -/
structure Tries (c c' : Client (Recorded σ)) (attempts : List Attempt) : Prop where
  config : c'.config = c.config
  lines : c'.lines = c.lines ++ c.config.lines (attempts.map (·.statement))
  sent : c'.sent = c.sent ++ Attempt.ending true attempts

theorem Tries.refl (c : Client (Recorded σ)) : Tries c c [] :=
  ⟨rfl, (Grows.refl c).lines, (List.append_nil _).symm⟩

theorem Tries.trans {c₁ c₂ c₃ : Client (Recorded σ)} {attempts attempts' : List Attempt}
    (h : Tries c₁ c₂ attempts) (h' : Tries c₂ c₃ attempts') :
    Tries c₁ c₃ (attempts ++ attempts') := by
  refine ⟨h'.config.trans h.config, ?_, ?_⟩
  · rw [h'.lines, h.lines, h.config, List.append_assoc, List.map_append, Config.lines_append]
  · rw [h'.sent, h.sent, List.append_assoc, Attempt.ending_append]

/-- Calls tell which attempts came to something. -/
theorem Grows.tries (isSent : Bool) {c c' : Client (Recorded σ)} {statements : List Statement}
    {calls : List Call} (h : Grows c c' statements calls)
    (hcalls : (calls.filterMap Call.exchange?).map (·.statement)
      = Attempt.ending true (Attempt.uniform isSent statements)) :
    Tries c c' (Attempt.uniform isSent statements) := by
  refine ⟨h.config, ?_, ?_⟩
  · rw [Attempt.map_statement_uniform]
    exact h.lines
  · rw [Client.sent, Recorded.exchanges, h.calls, List.filterMap_append, List.map_append, hcalls]
    rfl

/-! ## Steps -/

variable [Pool σ]

namespace Client

/-- Creating tables refuses no statement: without a connection none is tried. -/
theorem tries_createTables (c : Client (Recorded σ)) :
    ∃ attempts, Tries c (effect createTables c).2 attempts
      ∧ Attempt.ending false attempts = [] := by
  unfold createTables
  cases hpool : (Pool.acquire c.pool).1 with
  | error e =>
      exact ⟨_, (withConnection_refused hpool).2.tries true rfl, rfl⟩
  | ok u =>
      obtain ⟨m, -, hall⟩ := createAll_run c.holding
      refine ⟨_, (withConnection_granted hpool hall).tries true ?_,
        Attempt.ending_uniform_of_ne (by decide) _⟩
      rw [List.cons_append, List.filterMap_cons_none rfl, List.filterMap_append,
        Call.filterMap_sent, Attempt.ending_uniform_self, List.map_append, List.map_take,
        Pool.statements_exchanges]
      exact List.append_nil _

end Client

/-! ## Histories -/

namespace Client

/-- The statement that a step could not send for want of a connection, if there is one. -/
def refusedBy (c : Client σ) (step : Instance × Operation) : List Statement :=
  match step.2.statement step.1, (Pool.acquire c.pool).1 with
  | .ok (some s), .error _ => [s]
  | _, _ => []

/-- The statements that a history could not send for want of a connection. -/
def refusals (c : Client σ) : List (Instance × Operation) → List Statement
  | [] => []
  | step :: history => c.refusedBy step ++ (c.after step).refusals history

theorem tries_after (c : Client (Recorded σ)) (step : Instance × Operation) :
    ∃ attempts, Tries c (c.after step) attempts
      ∧ Attempt.ending false attempts = c.refusedBy step := by
  obtain ⟨i, o⟩ := step
  by_cases ho : o = .createTables
  · rw [ho]
    exact tries_createTables c
  · have hconduct := o.conducts_run ho i c
    unfold refusedBy after
    unfold conduct at hconduct
    generalize (effect o.run (i, c)).1 = out, (effect o.run (i, c)).2.2 = c',
      o.statement i = x at hconduct ⊢
    cases hconduct with
    | rejected h => exact ⟨_, h.tries true rfl, rfl⟩
    | idle h => exact ⟨_, h.tries true rfl, rfl⟩
    | refused hpool h =>
        refine ⟨_, h.tries false rfl, ?_⟩
        rw [hpool]
        rfl
    | sent hpool hout h =>
        refine ⟨_, h.tries true rfl, ?_⟩
        rw [hpool]
        rfl

/-- What a whole history tries. -/
theorem tries_history (history : List (Instance × Operation)) (c : Client (Recorded σ)) :
    ∃ attempts, Tries c (history.foldl after c) attempts
      ∧ Attempt.ending false attempts = c.refusals history := by
  induction history generalizing c with
  | nil => exact ⟨[], .refl c, rfl⟩
  | cons step history ih =>
      obtain ⟨attempts, hstep, hrefused⟩ := tries_after c step
      obtain ⟨attempts', hrest, hrefused'⟩ := ih (c.after step)
      refine ⟨attempts ++ attempts', hstep.trans hrest, ?_⟩
      rw [Attempt.ending_append, hrefused, hrefused']
      rfl

end Client

/-- The entries with a line are those of one part of the program. -/
theorem LogEntry.isSome_line?_iff (entry : LogEntry) :
    entry.line?.isSome = true ↔ entry.target = "bladeorm.sql" := by
  cases entry <;> simp [line?, target]

/-- **The log tells what was tried.**

The lines are what the entries about statements tell, and these are those with one target. Whatever
is done with a new client that logs its statements: its lines are those of some attempts, in order,
each with the number of parameters and the text, cut if it is too long. Those that were sent are
what went through the pool, in order, and the others are the statements that were refused a
connection. So the lines are those of what was sent exactly if no statement was refused. -/
theorem lines_tell_attempts {config : Config} (hlog : config.logStatements = true)
    (id : Nat) (pool : σ) (history : List (Instance × Operation)) :
    let start : Client (Recorded σ) := (Client.connect id config pool).recorded
    let c := history.foldl Client.after start
    (∀ entry : LogEntry, entry.line?.isSome = true ↔ entry.target = "bladeorm.sql") ∧
    ∃ attempts : List Attempt, c.lines = attempts.map (config.line ·.statement)
      ∧ c.sent = Attempt.ending true attempts
      ∧ start.refusals history = Attempt.ending false attempts
      ∧ (c.lines = c.sent.map config.line ↔ start.refusals history = []) := by
  intro start c
  obtain ⟨attempts, htries, hrefused⟩ := start.tries_history history
  have hlines : c.lines = attempts.map (config.line ·.statement) := by
    have hline : c.lines = [] ++ config.lines (attempts.map (·.statement)) := htries.lines
    rw [hline, Config.lines, if_pos hlog, List.map_map]
    rfl
  have hsent : c.sent = Attempt.ending true attempts := htries.sent
  refine ⟨LogEntry.isSome_line?_iff, attempts, hlines, hsent, hrefused.symm, ?_⟩
  rw [← hrefused, Attempt.ending_false_eq_nil, hlines, hsent]
  constructor
  · intro heq
    -- there are as many lines as attempts
    have hlength := congrArg List.length heq
    rw [List.length_map, List.length_map] at hlength
    exact Attempt.length_ending_true.mp hlength.symm
  · intro hall
    rw [Attempt.ending_true_eq_map hall, List.map_map]
    rfl

/-- Tables are created and rows are read while there are connections. -/
theorem lines_tell_attempts_open :
    let i := Instance.new Entity.tasks
    let history := [(i, Operation.register .tasks), (i, .createTables),
      (i, .fetch Entity.tasks.all)]
    let start := (Client.connect 0 {} ({} : ScriptedPool)).recorded
    let c := history.foldl Client.after start
    ({} : Config).logStatements = true ∧ start.refusals history = []
      ∧ c.lines = c.sent.map ({} : Config).line
      ∧ c.lines = [⟨0, "CREATE TABLE IF NOT EXISTS tasks (id SERIAL, score INTEGER)"⟩,
        ⟨0, "SELECT * FROM tasks"⟩] := by
  intro i history start c
  have hlog : ({} : Config).logStatements = true := rfl
  have hnone : start.refusals history = [] := rfl
  obtain ⟨-, _, -, -, -, htold⟩ := lines_tell_attempts hlog 0 ({} : ScriptedPool) history
  exact ⟨hlog, hnone, htold.mpr hnone, by decide⟩

/-- A line for a statement that was never sent: after the pool is closed, rows are to be read. -/
theorem line_without_statement :
    let i := Instance.new Entity.tasks
    let history := [(i, Operation.register .tasks), (i, .close), (i, .fetch Entity.tasks.all)]
    let start := (Client.connect 0 {} ({} : ScriptedPool)).recorded
    let c := history.foldl Client.after start
    c.lines = [⟨0, "SELECT * FROM tasks"⟩] ∧ c.sent = []
      ∧ c.lines ≠ c.sent.map ({} : Config).line := by
  intro i history start c
  have hlines : c.lines = [⟨0, "SELECT * FROM tasks"⟩] := by decide
  have hsent : c.sent = [] := rfl
  refine ⟨hlines, hsent, ?_⟩
  rw [hlines, hsent]
  decide

end EntityMapper
