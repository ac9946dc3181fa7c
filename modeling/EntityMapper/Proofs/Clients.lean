import EntityMapper.Proofs.Failures

/-!
# The clients of a program

A program may have several clients, and each has entities of its own. Of two entities nothing is
compared but their registrations, so these have to be different wherever the entities are, also if
both are of one shape. `Program` says which clients a program can have: they are connected one after
another, and each may be asked for anything at any time. In all of them a registration tells where
its entity is (`Program.registration_eq`), and so there are no two of one registration.
-/

namespace EntityMapper

variable {σ : Type}

/-- What stands at a position of a list with one more element. -/
theorem getElem?_concat_eq_some {α : Type} {l : List α} {a b : α} {n : Nat} :
    (l ++ [a])[n]? = some b ↔ l[n]? = some b ∨ n = l.length ∧ a = b := by
  grind

/-! ## One client -/

namespace Client

/-- Whether the entities of a client are registered and carry its number and their position. -/
structure IsNumbered (c : Client σ) : Prop where
  registration : ∀ (n : Nat) (e : Entity), c.entities[n]? = some e → e.registration = ⟨c.id, n⟩
  registered : ∀ e ∈ c.entities, e.IsRegistered

/-- Numbers depend on nothing but the registry. -/
theorem IsNumbered.of_registry {c c' : Client σ} (h : c.IsNumbered)
    (hsame : c'.registry = c.registry) : c'.IsNumbered := by
  obtain ⟨hid, hentities⟩ := Prod.mk.inj hsame
  refine ⟨fun n e he => ?_, fun e he => h.registered e (hentities ▸ he)⟩
  rw [h.registration n e (hentities ▸ he), hid]

theorem isNumbered_connect (id : Nat) (config : Config) (pool : σ) :
    (connect id config pool).IsNumbered :=
  ⟨fun _ _ he => (by cases he), fun _ he => (by cases he)⟩

/-- A further entity gets the next position. -/
theorem isNumbered_registered {shape : Shape} {s : Schema} {c c' : Client σ} (h : c.IsNumbered)
    (hs : Schema.ofShape shape = .ok s)
    (hsame : c'.registry = (c.id, c.entities ++ [⟨⟨c.id, c.entities.length⟩, s⟩])) :
    c'.IsNumbered := by
  obtain ⟨hid, hentities⟩ := Prod.mk.inj hsame
  constructor
  · intro n e he
    rw [hid]
    rw [hentities] at he
    rcases getElem?_concat_eq_some.mp he with he | ⟨rfl, rfl⟩
    · exact h.registration n e he
    · rfl
  · intro e he
    rw [hentities, List.mem_append, List.mem_singleton] at he
    rcases he with he | rfl
    · exact h.registered e he
    · exact ⟨shape, hs⟩

variable [Pool σ]

/-- **Every operation keeps the numbers**, as only a registration changes the registry. -/
theorem isNumbered_after {c : Client σ} (h : c.IsNumbered) (step : Instance × Operation) :
    (c.after step).IsNumbered ∧ (c.after step).id = c.id := by
  obtain ⟨i, o⟩ := step
  by_cases ho : ∃ shape, o = .register shape
  · obtain ⟨shape, rfl⟩ := ho
    cases hshape : Schema.ofShape shape with
    | error e =>
        rw [after, Operation.effect_register_error hshape]
        exact ⟨h, rfl⟩
    | ok s =>
        have hafter : (c.after (i, .register shape)).registry
            = (c.id, c.entities ++ [⟨⟨c.id, c.entities.length⟩, s⟩]) := by
          rw [after, Operation.run, effect_bind, InstanceM.effect_onClient,
            effect_register_ok hshape]
          rfl
        exact ⟨isNumbered_registered h hshape hafter, (Prod.mk.inj hafter).1⟩
  · have hcareful := Operation.careful_run (σ := σ) fun shape heq => ho ⟨shape, heq⟩
    have hafter : (c.after (i, o)).registry = c.registry := (hcareful (i, c)).1
    exact ⟨h.of_registry hafter, (Prod.mk.inj hafter).1⟩

end Client

/-! ## Several clients -/

variable [Pool σ]

/-- The clients that a program can have, in the order in which they were connected. -/
inductive Program (σ : Type) [Pool σ] : List (Client σ) → Prop where
  /-- A program begins without clients. -/
  | start : Program σ []
  /-- A client is connected; its number is the next one. -/
  | connect {clients : List (Client σ)} (h : Program σ clients) (config : Config) (pool : σ) :
    Program σ (clients ++ [.connect clients.length config pool])
  /-- A client is asked for something, which may fail. -/
  | ask {clients : List (Client σ)} (h : Program σ clients) (k : Nat)
    (step : Instance × Operation) : Program σ (clients.modify k (·.after step))

/-- The entity of a client at a position. -/
def entityAt? (clients : List (Client σ)) (client position : Nat) : Option Entity :=
  clients[client]?.bind (·.entities[position]?)

namespace Program

variable {clients : List (Client σ)}

/-- Every step keeps the numbers of clients and entities. -/
theorem isNumbered (h : Program σ clients) {k : Nat} {c : Client σ} (hc : clients[k]? = some c) :
    c.IsNumbered ∧ c.id = k := by
  induction h generalizing k c with
  | start => cases hc
  | @connect clients h config pool ih =>
      rcases getElem?_concat_eq_some.mp hc with hc | ⟨rfl, rfl⟩
      · exact ih hc
      · exact ⟨Client.isNumbered_connect .., rfl⟩
  | @ask clients h j step ih =>
      rw [List.getElem?_modify] at hc
      obtain ⟨old, hold, rfl⟩ := Option.map_eq_some_iff.mp hc
      obtain ⟨hnumbered, hid⟩ := ih hold
      split
      · obtain ⟨hafter, hsame⟩ := Client.isNumbered_after hnumbered step
        exact ⟨hafter, hsame.trans hid⟩
      · exact ⟨hnumbered, hid⟩

/-- **A registration tells where its entity is.** -/
theorem registration_eq (h : Program σ clients) {k n : Nat} {e : Entity}
    (he : entityAt? clients k n = some e) : e.registration = ⟨k, n⟩ := by
  obtain ⟨c, hc, hn⟩ := Option.bind_eq_some_iff.mp he
  obtain ⟨hnumbered, hid⟩ := h.isNumbered hc
  rw [hnumbered.registration n e hn, hid]

theorem isRegistered (h : Program σ clients) {k n : Nat} {e : Entity}
    (he : entityAt? clients k n = some e) : e.IsRegistered := by
  obtain ⟨c, hc, he⟩ := Option.bind_eq_some_iff.mp he
  exact (h.isNumbered hc).1.registered e (List.mem_of_getElem? he)

/-- **Two entities are the same exactly if they are one registration**: at one client, and there at
one position. -/
theorem same_iff (h : Program σ clients) {k n k' n' : Nat} {e e' : Entity}
    (he : entityAt? clients k n = some e) (he' : entityAt? clients k' n' = some e') :
    e.same e' = true ↔ k = k' ∧ n = n' := by
  rw [Entity.same, beq_iff_eq, h.registration_eq he, h.registration_eq he', Registration.mk.injEq]

end Program

end EntityMapper
