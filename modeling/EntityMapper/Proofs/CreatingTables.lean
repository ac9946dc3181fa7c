import EntityMapper.Proofs.Calls

/-!
# Creating tables

Tables are created for what was registered, so what is sent depends on a whole history: the shapes
that were accepted count, each as often as it was registered, and those that were refused do not.
The statements go out one after another on one connection. What the pool answers to them, had all of
them been sent, says how far it goes: up to the first failure, and to the end if there is none.
-/

namespace EntityMapper

open Sql (Statement)

variable {σ : Type}

/-! ## Registered schemas -/

/-- The schemas of the shapes that are accepted, in order. -/
def Shape.accepted (shapes : List Shape) : List Schema :=
  shapes.filterMap fun shape => (Schema.ofShape shape).toOption

/-- The statement that creates the table of a schema. -/
def Schema.creation (s : Schema) : Statement := ⟨s.createTableSql, []⟩

namespace Client

theorem effect_register_error {shape : Shape} {e : Error} (h : Schema.ofShape shape = .error e)
    (c : Client σ) : effect (register shape) c = (.error e, c) := by
  unfold register
  exact effect_liftM_error h _ _

theorem effect_register_ok {shape : Shape} {s : Schema} (h : Schema.ofShape shape = .ok s)
    (c : Client σ) : effect (register shape) c = (.ok ⟨⟨c.id, c.entities.length⟩, s⟩,
      { c with
        entities := c.entities ++ [⟨⟨c.id, c.entities.length⟩, s⟩]
        journal := c.journal
          ++ [.logged (.registered s.name s.table s.size s.identityName?)] }) := by
  unfold register
  rw [effect_liftM_ok h]
  rfl

/-- The client after some shapes were to be registered. -/
def registering (c : Client σ) : List Shape → Client σ
  | [] => c
  | shape :: shapes => registering (effect (register shape) c).2 shapes

theorem pool_registering (c : Client σ) (shapes : List Shape) :
    (c.registering shapes).pool = c.pool := by
  induction shapes generalizing c with
  | nil => rfl
  | cons shape shapes ih =>
      rw [registering, ih]
      cases h : Schema.ofShape shape with
      | error e => rw [effect_register_error h]
      | ok s => rw [effect_register_ok h]

theorem schemas_registering (c : Client σ) (shapes : List Shape) :
    (c.registering shapes).entities.map (·.schema)
      = c.entities.map (·.schema) ++ Shape.accepted shapes := by
  induction shapes generalizing c with
  | nil => exact (List.append_nil _).symm
  | cons shape shapes ih =>
      rw [registering, ih]
      unfold Shape.accepted
      cases h : Schema.ofShape shape with
      | error e =>
          rw [effect_register_error h, List.filterMap_cons_none (by rw [h]; rfl)]
      | ok s =>
          rw [effect_register_ok h, List.filterMap_cons_some (b := s) (by rw [h]; rfl),
            List.map_append, List.append_assoc]
          rfl

end Client

/-! ## Answers -/

/-- What a pool answers to statements that are sent one after another, whatever it answers. -/
def Pool.answers [Pool σ] (p : σ) : List Statement → List (Except Error Nat)
  | [] => []
  | s :: rest => (Pool.execute s p).1 :: Pool.answers (Pool.execute s p).2 rest

/-- Statements that are sent one after another, each with what a pool answers. -/
def Pool.exchanges [Pool σ] (p : σ) (statements : List Statement) : List Exchange :=
  List.zipWith (fun s answer => ⟨s, answer.map fun _ => []⟩) statements (Pool.answers p statements)

theorem Pool.statements_exchanges [Pool σ] (p : σ) (statements : List Statement) :
    (Pool.exchanges p statements).map (·.statement) = statements := by
  induction statements generalizing p with
  | nil => rfl
  | cons s rest ih => exact congrArg (s :: ·) (ih (Pool.execute s p).2)

/-- How many answers are waited for and what comes of them: all, if there is no error, else those up
to the first error, which is then the outcome. -/
inductive Ends (answers : List (Except Error Nat)) : Nat → Except Error Unit → Prop where
  | finished (h : ∀ a ∈ answers, ∃ n, a = .ok n) : Ends answers answers.length (.ok ())
  | failed {k : Nat} {e : Error} (hbefore : ∀ a ∈ answers.take k, ∃ n, a = .ok n)
    (h : answers[k]? = some (.error e)) : Ends answers (k + 1) (.error e)

/-- An answer before the others that is no error moves the end by one. -/
theorem Ends.cons {answers : List (Except Error Nat)} {m n : Nat} {out : Except Error Unit}
    (h : Ends answers m out) : Ends (.ok n :: answers) (m + 1) out := by
  cases h with
  | finished h => exact .finished (List.forall_mem_cons.mpr ⟨⟨n, rfl⟩, h⟩)
  | failed hbefore h =>
      refine .failed ?_ h
      rw [List.take_succ_cons]
      exact List.forall_mem_cons.mpr ⟨⟨n, rfl⟩, hbefore⟩

/-! ## Creation -/

namespace Client

variable [Pool σ]

/-- A table is created by its one statement, whose answer is the outcome. -/
theorem createTable_step (e : Entity) (c : Client (Recorded σ)) :
    let r := effect (createTable e) c
    let answer := (Pool.execute e.schema.creation c.pool.pool).1
    r.1 = answer.map (fun _ => ())
      ∧ r.2.pool.pool = (Pool.execute e.schema.creation c.pool.pool).2
      ∧ Grows c r.2 [e.schema.creation]
        [.sent ⟨e.schema.creation, answer.map fun _ => []⟩] := by
  intro r answer
  obtain ⟨logged, hpool, hlog, hthen⟩ :=
    exists_logged e.name .createTable e.schema.creation c
  have hr : r = ((effect (sendExecute e.schema.creation) logged).1.map fun _ => (),
      (effect (sendExecute e.schema.creation) logged).2) :=
    (hthen _).trans (effect_map _ _ _)
  have hanswer : answer = (effect (sendExecute e.schema.creation) logged).1 := by
    simp only [answer, ← hpool]
    rfl
  rw [hr, hanswer, ← hpool]
  exact ⟨rfl, rfl, hlog.trans (grows_sendExecute _)⟩

/-- Statements go out up to the first one that fails. -/
theorem createTables_run (entities : List Entity) (c : Client (Recorded σ)) :
    let statements := entities.map (·.schema.creation)
    let r := effect (entities.forM createTable) c
    ∃ m, Ends (Pool.answers c.pool.pool statements) m r.1
      ∧ Grows c r.2 (statements.take m)
        (((Pool.exchanges c.pool.pool statements).take m).map .sent) := by
  -- after the first statement the pool is another one, so the client has to be general
  induction entities generalizing c with
  | nil => exact ⟨0, .finished nofun, .refl c⟩
  | cons e entities ih =>
      intro statements r
      obtain ⟨hout, hpool, hgrows⟩ := createTable_step e c
      have hr : r = effect (do createTable e; entities.forM createTable) c := rfl
      rw [effect_bind] at hr
      change ∃ m, Ends ((Pool.execute e.schema.creation c.pool.pool).1
        :: Pool.answers (Pool.execute e.schema.creation c.pool.pool).2 _) m r.1 ∧ _
      cases hanswer : (Pool.execute e.schema.creation c.pool.pool).1 with
      | error err =>
          rw [hanswer] at hout
          have hfail : effect (createTable e) c = (.error err, (effect (createTable e) c).2) :=
            Prod.ext hout rfl
          rw [hfail] at hr
          rw [hr]
          exact ⟨1, .failed nofun rfl, hgrows⟩
      | ok n =>
          rw [hanswer] at hout
          have hsent : effect (createTable e) c = (.ok (), (effect (createTable e) c).2) :=
            Prod.ext hout rfl
          rw [hsent] at hr
          obtain ⟨m, hends, hrest⟩ := ih (effect (createTable e) c).2
          rw [hpool] at hends hrest
          rw [hr]
          exact ⟨m + 1, hends.cons, hgrows.trans hrest⟩

/-- The entry that ends the creation changes neither the outcome nor the calls. -/
theorem createAll_run (c : Client (Recorded σ)) :
    let statements := c.entities.map (·.schema.creation)
    let r := effect (do
      let entities := (← get).entities
      entities.forM createTable
      log (.createdTables entities.length)) c
    ∃ m, Ends (Pool.answers c.pool.pool statements) m r.1
      ∧ Grows c r.2 (statements.take m)
        (((Pool.exchanges c.pool.pool statements).take m).map .sent) := by
  intro statements r
  obtain ⟨m, hends, hgrows⟩ := createTables_run c.entities c
  refine ⟨m, ?_⟩
  have hr : r = effect (c.entities.forM createTable
    >>= fun _ => log (.createdTables c.entities.length)) c := rfl
  rw [effect_bind] at hr
  rcases hrun : effect (c.entities.forM createTable) c with ⟨out, c'⟩
  rw [hrun] at hr hends hgrows
  rw [hr]
  cases out with
  | error e => exact ⟨hends, hgrows⟩
  | ok u =>
      have hnote : Grows c' (effect (log (.createdTables c.entities.length)) c').2 [] [] :=
        grows_note rfl
      have hall := hgrows.trans hnote
      rw [List.append_nil, List.append_nil] at hall
      exact ⟨hends, hall⟩

/-- **Tables are created in the order of registration, up to the first failure.**

Let any shapes be registered with a new client, accepted or not. If the pool refuses a connection,
nothing is sent and the reason is the outcome. Otherwise one connection is taken and given back, and
on it the statements of the accepted shapes are sent, in order and without parameters: all of them
if each is answered, and else those up to the first one that fails, whose error is the outcome. -/
theorem createTables_up_to_failure (id : Nat) (config : Config) (pool : σ) (shapes : List Shape) :
    let c := (connect id config pool).recorded.registering shapes
    let statements := (Shape.accepted shapes).map Schema.creation
    let r := effect createTables c
    match Pool.acquire pool with
    | (.error e, _) => r.1 = .error e ∧ r.2.pool.calls = [.refused]
    | (.ok _, held) => ∃ m, Ends (Pool.answers held statements) m r.1
        ∧ r.2.pool.calls
          = .acquired :: ((Pool.exchanges held statements).take m).map .sent ++ [.released] := by
  intro c statements r
  have hpool : c.pool = ⟨pool, []⟩ := pool_registering _ _
  have hstatements : c.entities.map (·.schema.creation) = statements := by
    have hschemas : c.entities.map (·.schema) = Shape.accepted shapes := schemas_registering _ _
    simp only [statements, ← hschemas, List.map_map]
    rfl
  have hacquire : (Pool.acquire c.pool).1 = (Pool.acquire pool).1 := by rw [hpool]; rfl
  have hheld : c.holding.pool.pool = (Pool.acquire pool).2 := by rw [holding, hpool]; rfl
  rcases hp : Pool.acquire pool with ⟨out, held⟩
  rw [hp] at hacquire hheld
  cases out with
  | error e =>
      obtain ⟨hout, hgrows⟩ := withConnection_refused hacquire
      refine ⟨hout, hgrows.calls.trans ?_⟩
      rw [hpool]
      rfl
  | ok u =>
      obtain ⟨m, hends, hgrows⟩ := createAll_run c.holding
      have hsame : c.holding.entities.map (·.schema.creation) = statements := hstatements
      rw [hsame, hheld] at hends hgrows
      refine ⟨m, ?_, ?_⟩
      · rwa [← outcome_withConnection _ hacquire] at hends
      · refine (withConnection_granted hacquire hgrows).calls.trans ?_
        rw [hpool]
        rfl

/-- The statement of a shape that is registered twice is sent twice, that of a refused one not at
all. -/
example :
    let shape (table : String) : Shape := ⟨"Task", some table, [("id", .serial)], none⟩
    let c := (connect 0 {} ({} : ScriptedPool)).recorded.registering
      [shape "tasks", shape "no table", shape "tasks"]
    let s : Statement := ⟨"CREATE TABLE IF NOT EXISTS tasks (id SERIAL)", []⟩
    (effect createTables c).2.pool.calls
      = [.acquired, .sent ⟨s, .ok []⟩, .sent ⟨s, .ok []⟩, .released] := by
  rfl

end Client

end EntityMapper
