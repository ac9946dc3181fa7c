import EntityMapper.Proofs.ReportedNames
import Mathlib.Data.List.Induction

/-!
# What a record holds

A record is made from named values that are given one after the other. A name keeps the place where
it was given first and has the value that it was given last. `Builds` says what was given to a
record, whichever way it was made, and `columns_ofList` and `get?_ofList` say what it holds.
-/

namespace EntityMapper

variable {given fields : List (String × Value)} {name name' : String} {v : Value} {r : Record}

/-- The last value that is given under a name. -/
def lastGiven (given : List (String × Value)) (name : String) : Option Value :=
  (given.reverse.find? fun p => p.1 == name).map (·.2)

theorem lastGiven_append (given : List (String × Value)) (name : String) (v : Value)
    (name' : String) : lastGiven (given ++ [(name, v)]) name'
      = if name = name' then some v else lastGiven given name' := by
  rw [lastGiven, List.reverse_append, List.reverse_singleton, List.singleton_append]
  by_cases h : name = name'
  · simp [h]
  · simp [h, lastGiven]

namespace Record

/-- Whether a record is made from named values: collected from a list of them, or started without
any, and then pushed one by one. -/
inductive Builds : List (String × Value) → Record → Prop where
  | new : Builds [] .empty
  | collected (given : List (String × Value)) : Builds given (.ofList given)
  | pushed {given : List (String × Value)} {r : Record} (h : Builds given r) (name : String)
    (v : Value) : Builds (given ++ [(name, v)]) (r.push name v)

/-- However it is made, a record is the one that is collected. -/
theorem Builds.eq_ofList (h : Builds given r) : r = .ofList given := by
  induction h with
  | new => rfl
  | collected given => rfl
  | pushed h name v ih => rw [ih, ofList, ofList, List.foldl_append]; rfl

/-- Where no name occurs twice, what is found under a name is the field of that name. -/
theorem get?_eq_some_iff (hr : r.columns.Nodup) :
    r.get? name = some v ↔ (name, v) ∈ r.fields := by
  refine ⟨fun h => ?_, get?_of_mem hr⟩
  obtain ⟨p, hp, rfl⟩ := Option.map_eq_some_iff.mp h
  have hname : p.1 = name := by simpa using List.find?_some hp
  exact hname ▸ List.mem_of_find?_eq_some hp

/-! ## Pushing -/

/-- A name that is pushed is added at the end, unless it is there already. -/
theorem names_pushField (name : String) (v : Value) (fields : List (String × Value)) :
    (pushField name v fields).map (·.1)
      = if name ∈ fields.map (·.1) then fields.map (·.1) else fields.map (·.1) ++ [name] := by
  induction fields with
  | nil => rfl
  | cons p fields ih =>
      rw [pushField, List.map_cons]
      by_cases hp : p.1 = name
      · rw [if_pos hp, if_pos (hp ▸ List.mem_cons_self)]
        rfl
      · have hmem : name ∈ p.1 :: fields.map (·.1) ↔ name ∈ fields.map (·.1) := by
          rw [List.mem_cons, or_iff_right (Ne.symm hp)]
        rw [if_neg hp, List.map_cons, ih]
        simp only [hmem]
        split <;> rfl

theorem pushField_of_not_mem (h : name ∉ fields.map (·.1)) :
    pushField name v fields = fields ++ [(name, v)] := by
  induction fields with
  | nil => rfl
  | cons p fields ih =>
      rw [List.map_cons, List.mem_cons, not_or] at h
      rw [pushField, if_neg (Ne.symm h.1), ih h.2]
      rfl

/-- What is pushed under a name is found there, and everything else where it was. -/
theorem get?_push (r : Record) (name : String) (v : Value) (name' : String) :
    (r.push name v).get? name' = if name = name' then some v else r.get? name' := by
  change ((pushField name v r.fields).find? (·.1 == name')).map (·.2)
    = if name = name' then some v else (r.fields.find? (·.1 == name')).map (·.2)
  induction r.fields with
  | nil => by_cases h : name = name' <;> simp [pushField, h]
  | cons p fields ih =>
      rw [pushField]
      by_cases hp : p.1 = name
      · -- the value in this place is replaced
        rw [if_pos hp]
        by_cases h : name = name'
        · simp [hp, h]
        · have hne : p.1 ≠ name' := fun heq => h (hp.symm.trans heq)
          simp [hne, h]
      · rw [if_neg hp]
        by_cases hp' : p.1 = name'
        · have hne : name ≠ name' := fun heq => hp (hp'.trans heq.symm)
          simp [hp', hne]
        · simpa [hp'] using ih

/-! ## What was given -/

theorem eraseDups_append_singleton (names : List String) (name : String) :
    (names ++ [name]).eraseDups
      = if name ∈ names then names.eraseDups else names.eraseDups ++ [name] := by
  rw [List.eraseDups_append]
  by_cases h : name ∈ names
  · simp [List.removeAll, h]
  · simp only [List.removeAll, h, List.elem_eq_mem, decide_false, Bool.not_false, if_false,
      List.filter_cons_of_pos, List.filter_nil]
    rfl

/-- **The names are those that were given, each where it was given first.** -/
theorem columns_ofList (given : List (String × Value)) :
    (ofList given).columns = (given.map (·.1)).eraseDups := by
  induction given using List.reverseRecOn with
  | nil => rfl
  | append_singleton given p ih =>
      have hpush : (ofList (given ++ [p])).columns = ((ofList given).push p.1 p.2).columns := by
        rw [ofList, List.foldl_append]
        rfl
      have hmem : p.1 ∈ (ofList given).columns ↔ p.1 ∈ given.map (·.1) := by
        rw [ih, List.mem_eraseDups]
      rw [hpush, List.map_append, List.map_singleton, eraseDups_append_singleton, ← ih]
      simp only [← hmem]
      exact names_pushField p.1 p.2 (ofList given).fields

theorem nodup_columns_ofList (given : List (String × Value)) :
    (ofList given).columns.Nodup := by
  rw [columns_ofList]
  induction given.map (·.1) using List.reverseRecOn with
  | nil => exact List.nodup_nil
  | append_singleton names name ih =>
      rw [eraseDups_append_singleton]
      split
      · exact ih
      · rename_i hnew
        have hnew' : name ∉ names.eraseDups := fun h => hnew (List.mem_eraseDups.mp h)
        exact ih.append (List.nodup_singleton name) (List.disjoint_singleton.mpr hnew')

/-- **A name has the value that was given under it last.** -/
theorem get?_ofList (given : List (String × Value)) (name : String) :
    (ofList given).get? name = lastGiven given name := by
  induction given using List.reverseRecOn with
  | nil => rfl
  | append_singleton given p ih =>
      rw [lastGiven_append, ← ih, ← get?_push, ofList, List.foldl_append]
      rfl

/-- Fields of different names are kept as they are. -/
theorem fields_ofList (h : (fields.map (·.1)).Nodup) : (ofList fields).fields = fields := by
  induction fields using List.reverseRecOn with
  | nil => rfl
  | append_singleton fields p ih =>
      rw [List.map_append, List.nodup_append'] at h
      have hpush : (ofList (fields ++ [p])).fields = pushField p.1 p.2 (ofList fields).fields := by
        rw [ofList, List.foldl_append]
        rfl
      rw [hpush, ih h.1]
      exact pushField_of_not_mem fun hmem => h.2.2 hmem (List.mem_singleton_self _)

end Record

/-! ## Different names -/

/-- Where every name is given one value only, the last one is that one. -/
theorem lastGiven_eq_some_iff (h : (given.map (·.1)).Nodup) :
    lastGiven given name = some v ↔ (name, v) ∈ given := by
  have hfields := Record.fields_ofList h
  have hr : (Record.ofList given).columns.Nodup := Record.nodup_columns_ofList given
  rw [← Record.get?_ofList, Record.get?_eq_some_iff hr, hfields]

/-- **Different names can be given in any order.** -/
theorem lastGiven_perm {given' : List (String × Value)} (h : (given.map (·.1)).Nodup)
    (hperm : given.Perm given') : lastGiven given = lastGiven given' := by
  have h' : (given'.map (·.1)).Nodup := (hperm.map _).nodup_iff.mp h
  refine funext fun name => Option.ext fun v => ?_
  rw [lastGiven_eq_some_iff h, lastGiven_eq_some_iff h', hperm.mem_iff]

end EntityMapper
