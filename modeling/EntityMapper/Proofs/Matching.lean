import EntityMapper.Pattern.Basic
import Mathlib.Data.List.Basic

/-!
# What patterns match

A pattern is matched by following all matches at once, as sets of places. `Pattern.Matches` says
without places what a pattern matches: a part of a text, between what stands before it and after it.
Each operation on places follows one kind of part, which `Follows` makes exact, and by induction on
the pattern `isMatch_iff` says that a text matches exactly if it has a part that the pattern
matches. A repetition without limit is followed for only so many turns as there are characters:
turns in which nothing is taken can be left out.
-/

namespace EntityMapper

open Pattern

/-! ## Kinds of parts -/

/-- A kind of part of a text, which may depend on what stands before the part and after it. -/
abbrev Part := List Char → List Char → List Char → Prop

namespace Part

/-- A part of one kind and right behind it one of another. -/
def followedBy (P Q : Part) : Part := fun before part after =>
  ∃ first second, part = first ++ second ∧ P before first (second ++ after) ∧
    Q (before ++ first) second after

/-- So many parts of a kind, one right behind the other. -/
def times (P : Part) : Nat → Part
  | 0 => fun _ part _ => part = []
  | n + 1 => P.followedBy (P.times n)

/-- A number of parts of a kind that is allowed, one right behind the other. -/
def repeats (P : Part) (allowed : Nat → Prop) : Part := fun before part after =>
  ∃ n, allowed n ∧ P.times n before part after

/-- A part of one kind or another. -/
def either (P Q : Part) : Part := fun before part after => P before part after ∨ Q before part after

end Part

/-- What a pattern matches. A limit below the least number of repetitions does not lower that. -/
def Pattern.Matches : Pattern → Part
  | .empty => fun _ part _ => part = []
  | .one set => fun _ part _ => ∃ c, part = [c] ∧ set.contains c = true
  | .assert a => fun before part after => part = [] ∧ a.holds before.getLast? after.head? = true
  | .seq p q => p.Matches.followedBy q.Matches
  | .alt p q => p.Matches.either q.Matches
  | .repeated p least most =>
    p.Matches.repeats fun n => least ≤ n ∧ ∀ m ∈ most, n ≤ max least m

variable {s before part after : List Char} {P Q : Part} {i j n : Nat}

/-- The turns in which nothing is taken can be left out. -/
theorem Part.exists_times_le (h : P.times n before part after) :
    ∃ m ≤ part.length, P.times m before part after := by
  induction n generalizing before part with
  | zero => exact ⟨0, Nat.zero_le _, h⟩
  | succ n ih =>
      obtain ⟨first, second, rfl, hfirst, hsecond⟩ := h
      obtain ⟨m, hm, hrest⟩ := ih hsecond
      cases first with
      | nil =>
          rw [List.append_nil] at hrest
          exact ⟨m, hm, hrest⟩
      | cons c first =>
          refine ⟨m + 1, ?_, c :: first, second, rfl, hfirst, hrest⟩
          rw [List.length_append, List.length_cons]
          omega

/-! ## Parts between two places -/

namespace Part

/-- Whether the part of a text between two places is of a kind. -/
def spans (P : Part) (s : List Char) (i j : Nat) : Prop :=
  ∃ before part after, s = before ++ part ++ after ∧ i = before.length ∧
    j = before.length + part.length ∧ P before part after

theorem spans_le (h : P.spans s i j) : i ≤ j ∧ j ≤ s.length := by
  obtain ⟨before, part, after, rfl, rfl, rfl, -⟩ := h
  simp only [List.length_append]
  omega

theorem spans_nil (i : Nat) (hi : i ≤ s.length) {P : Part}
    (hP : P (s.take i) [] (s.drop i)) : P.spans s i i := by
  refine ⟨s.take i, [], s.drop i, ?_, ?_, ?_, hP⟩
  · rw [List.append_nil, List.take_append_drop]
  · rw [List.length_take, Nat.min_eq_left hi]
  · rw [List.length_take, Nat.min_eq_left hi, List.length_nil, Nat.add_zero]

theorem spans_followedBy :
    (P.followedBy Q).spans s i j ↔ ∃ k, P.spans s i k ∧ Q.spans s k j := by
  constructor
  · rintro ⟨before, _, after, rfl, rfl, rfl, first, second, rfl, hP, hQ⟩
    refine ⟨before.length + first.length, ⟨before, first, second ++ after, ?_, rfl, rfl, hP⟩,
      before ++ first, second, after, ?_, ?_, ?_, hQ⟩
    · simp only [List.append_assoc]
    · simp only [List.append_assoc]
    · rw [List.length_append]
    · simp only [List.length_append, Nat.add_assoc]
  · rintro ⟨k, ⟨before, first, after, rfl, rfl, rfl, hP⟩, before', second, after', hs, hk, rfl, hQ⟩
    -- both cut the text at the same place
    obtain ⟨rfl, rfl⟩ : before ++ first = before' ∧ after = second ++ after' := by
      rw [List.append_assoc before'] at hs
      exact List.append_inj hs (by rw [List.length_append, hk])
    refine ⟨before, first ++ second, after', ?_, rfl, ?_, first, second, rfl, hP, hQ⟩
    · simp only [List.append_assoc]
    · simp only [List.length_append, Nat.add_assoc]

theorem spans_times_zero : (P.times 0).spans s i j ↔ i = j ∧ j ≤ s.length := by
  constructor
  · rintro ⟨before, _, after, rfl, rfl, rfl, rfl⟩
    exact ⟨rfl, by simp⟩
  · rintro ⟨rfl, hi⟩
    exact spans_nil i hi rfl

theorem spans_times_succ :
    (P.times (n + 1)).spans s i j ↔ ∃ k, P.spans s i k ∧ (P.times n).spans s k j :=
  spans_followedBy

theorem spans_times_one : (P.times 1).spans s i j ↔ P.spans s i j := by
  rw [spans_times_succ]
  constructor
  · rintro ⟨k, h, hnone⟩
    exact (spans_times_zero.mp hnone).1 ▸ h
  · intro h
    exact ⟨j, h, spans_times_zero.mpr ⟨rfl, (spans_le h).2⟩⟩

theorem spans_times_add {m : Nat} :
    (P.times (n + m)).spans s i j ↔ ∃ k, (P.times n).spans s i k ∧ (P.times m).spans s k j := by
  induction n generalizing i with
  | zero =>
      rw [Nat.zero_add]
      constructor
      · intro h
        have hle := spans_le h
        exact ⟨i, spans_times_zero.mpr ⟨rfl, by omega⟩, h⟩
      · rintro ⟨k, hnone, h⟩
        rw [(spans_times_zero.mp hnone).1]
        exact h
  | succ n ih =>
      rw [Nat.add_right_comm, spans_times_succ]
      constructor
      · rintro ⟨k, hfirst, hrest⟩
        obtain ⟨l, hn, hm⟩ := ih.mp hrest
        exact ⟨l, spans_times_succ.mpr ⟨k, hfirst, hn⟩, hm⟩
      · rintro ⟨l, hn, hm⟩
        obtain ⟨k, hfirst, hrest⟩ := spans_times_succ.mp hn
        exact ⟨k, hfirst, ih.mpr ⟨l, hrest, hm⟩⟩

theorem spans_repeats {allowed : Nat → Prop} :
    (P.repeats allowed).spans s i j ↔ ∃ n, allowed n ∧ (P.times n).spans s i j := by
  constructor
  · rintro ⟨before, part, after, hs, hi, hj, n, hn, h⟩
    exact ⟨n, hn, before, part, after, hs, hi, hj, h⟩
  · rintro ⟨n, hn, before, part, after, hs, hi, hj, h⟩
    exact ⟨before, part, after, hs, hi, hj, n, hn, h⟩

theorem spans_either : (P.either Q).spans s i j ↔ P.spans s i j ∨ Q.spans s i j := by
  constructor
  · rintro ⟨before, part, after, hs, hi, hj, hP | hQ⟩
    · exact .inl ⟨before, part, after, hs, hi, hj, hP⟩
    · exact .inr ⟨before, part, after, hs, hi, hj, hQ⟩
  · rintro (⟨before, part, after, hs, hi, hj, hP⟩ | ⟨before, part, after, hs, hi, hj, hQ⟩)
    · exact ⟨before, part, after, hs, hi, hj, .inl hP⟩
    · exact ⟨before, part, after, hs, hi, hj, .inr hQ⟩

/-- Between two places so many turns suffice as there are characters. -/
theorem exists_spans_times_le (h : (P.times n).spans s i j) :
    ∃ m ≤ s.length, (P.times m).spans s i j := by
  obtain ⟨before, part, after, rfl, hi, hj, h⟩ := h
  obtain ⟨m, hm, hfewer⟩ := exists_times_le h
  refine ⟨m, ?_, before, part, after, rfl, hi, hj, hfewer⟩
  simp only [List.length_append]
  omega

end Part

/-! ## Sets of places -/

namespace Pattern

variable {places places' : Places} {step step' : Places → Places}

/-- Whether a place is one of some. -/
def Places.has (places : Places) (i : Nat) : Prop := places[i]? = some true

theorem Places.has_union (hsize : places.length = places'.length) :
    Places.has (places.union places') i ↔ places.has i ∨ places'.has i := by
  rw [Places.has, Places.union, List.getElem?_zipWith_eq_some]
  constructor
  · rintro ⟨a, b, ha, hb, hor⟩
    rcases Bool.or_eq_true_iff.mp hor with rfl | rfl
    · exact .inl ha
    · exact .inr hb
  · rintro (h | h)
    · have hlt := (List.getElem?_eq_some_iff.mp h).1
      exact ⟨true, _, h, List.getElem?_eq_getElem (hsize ▸ hlt), rfl⟩
    · have hlt := (List.getElem?_eq_some_iff.mp h).1
      exact ⟨_, true, List.getElem?_eq_getElem (hsize ▸ hlt), h, Bool.or_true _⟩

theorem Places.length_union (hsize : places.length = places'.length) :
    (places.union places').length = places.length := by
  rw [Places.union, List.length_zipWith, hsize, Nat.min_self]

/-- Whether an operation on the places of a text goes from the places where parts of a kind begin
to those where they end. -/
structure Follows (s : List Char) (step : Places → Places) (P : Part) : Prop where
  length : ∀ {places : Places}, places.length = s.length + 1 → (step places).length = s.length + 1
  has : ∀ {places : Places}, places.length = s.length + 1 → ∀ {j : Nat},
    Places.has (step places) j ↔ ∃ i, places.has i ∧ P.spans s i j

/-! ## Steps of a match -/

theorem follows_empty (s : List Char) : Follows s id Pattern.empty.Matches := by
  refine ⟨fun hsize => hsize, fun {places} hsize {j} => ?_⟩
  constructor
  · intro h
    have hlt : j < places.length := (List.getElem?_eq_some_iff.mp h).1
    exact ⟨j, h, Part.spans_nil j (by omega) rfl⟩
  · rintro ⟨i, h, before, _, after, -, rfl, rfl, rfl⟩
    exact h

theorem follows_one (set : Class) (s : List Char) :
    Follows s (placesAfter set s) (Pattern.one set).Matches := by
  refine ⟨fun hsize => ?_, fun {places} hsize {j} => ?_⟩
  · rw [placesAfter, List.length_cons, List.length_zipWith, hsize]
    omega
  constructor
  · intro h
    cases j with
    | zero => cases h
    | succ i =>
        rw [Places.has, placesAfter, List.getElem?_cons_succ, List.getElem?_zipWith_eq_some] at h
        obtain ⟨start, c, hstart, hc, hboth⟩ := h
        obtain ⟨rfl, hset⟩ := Bool.and_eq_true_iff.mp hboth
        obtain ⟨hlt, rfl⟩ := List.getElem?_eq_some_iff.mp hc
        refine ⟨i, hstart, s.take i, [s[i]], s.drop (i + 1), ?_, ?_, ?_, s[i], rfl, hset⟩
        · rw [List.append_assoc, List.singleton_append, List.getElem_cons_drop,
            List.take_append_drop]
        · rw [List.length_take, Nat.min_eq_left (Nat.le_of_lt hlt)]
        · rw [List.length_take, Nat.min_eq_left (Nat.le_of_lt hlt), List.length_singleton]
  · rintro ⟨i, h, before, _, after, rfl, rfl, rfl, c, rfl, hset⟩
    rw [Places.has, List.length_singleton, placesAfter, List.getElem?_cons_succ,
      List.getElem?_zipWith_eq_some]
    refine ⟨true, c, h, ?_, hset⟩
    rw [List.append_assoc, List.getElem?_append_right (Nat.le_refl _), Nat.sub_self]
    rfl

/-- Whether a condition holds at a place is asked of the characters beside it. -/
theorem getElem?_placesWhere (a : Assertion) (before after : List Char) :
    (placesWhere a (before ++ after))[before.length]?
      = some (a.holds before.getLast? after.head?) := by
  rw [placesWhere, List.getElem?_zipWith_eq_some]
  refine ⟨before.getLast?, after.head?, ?_, ?_, rfl⟩
  · rcases List.eq_nil_or_concat before with rfl | ⟨start, c, rfl⟩
    · rfl
    · simp
  · cases after with
    | nil => simp
    | cons c rest => simp

theorem follows_assert (a : Assertion) (s : List Char) :
    Follows s (fun starts => List.zipWith (· && ·) starts (placesWhere a s))
      (Pattern.assert a).Matches := by
  have hwhere : (placesWhere a s).length = s.length + 1 := by
    simp [placesWhere]
  refine ⟨fun hsize => ?_, fun {places} hsize {j} => ?_⟩
  · rw [List.length_zipWith, hsize, hwhere, Nat.min_self]
  rw [Places.has, List.getElem?_zipWith_eq_some]
  constructor
  · rintro ⟨start, holds, hstart, hholds, hboth⟩
    obtain ⟨rfl, rfl⟩ := Bool.and_eq_true_iff.mp hboth
    have hlt := (List.getElem?_eq_some_iff.mp hstart).1
    have hj : j ≤ s.length := by omega
    refine ⟨j, hstart, Part.spans_nil j hj ⟨rfl, ?_⟩⟩
    have hplace := getElem?_placesWhere a (s.take j) (s.drop j)
    rw [List.take_append_drop, List.length_take, Nat.min_eq_left hj, hholds] at hplace
    exact (Option.some.inj hplace).symm
  · rintro ⟨i, h, before, _, after, rfl, rfl, rfl, rfl, hholds⟩
    rw [List.append_nil]
    exact ⟨true, true, h, hholds ▸ getElem?_placesWhere a before after, rfl⟩

variable {s : List Char} {P Q : Part}

theorem Follows.followedBy (h : Follows s step P) (h' : Follows s step' Q) :
    Follows s (fun places => step' (step places)) (P.followedBy Q) := by
  refine ⟨fun hsize => h'.length (h.length hsize), fun {places} hsize {j} => ?_⟩
  rw [h'.has (h.length hsize)]
  constructor
  · rintro ⟨k, hk, hQ⟩
    obtain ⟨i, hi, hP⟩ := (h.has hsize).mp hk
    exact ⟨i, hi, Part.spans_followedBy.mpr ⟨k, hP, hQ⟩⟩
  · rintro ⟨i, hi, hspans⟩
    obtain ⟨k, hP, hQ⟩ := Part.spans_followedBy.mp hspans
    exact ⟨k, (h.has hsize).mpr ⟨i, hi, hP⟩, hQ⟩

theorem Follows.either (h : Follows s step P) (h' : Follows s step' Q) :
    Follows s (fun places => Places.union (step places) (step' places)) (P.either Q) := by
  have hsame : ∀ {places : Places}, places.length = s.length + 1 →
      (step places).length = (step' places).length := fun hsize =>
    (h.length hsize).trans (h'.length hsize).symm
  refine ⟨fun hsize => ?_, fun {places} hsize {j} => ?_⟩
  · rw [Places.length_union (hsame hsize), h.length hsize]
  rw [Places.has_union (hsame hsize), h.has hsize, h'.has hsize, ← exists_or]
  simp only [Part.spans_either, and_or_left]

theorem Follows.congr (h : Follows s step P) (hPQ : ∀ i j, P.spans s i j ↔ Q.spans s i j) :
    Follows s step Q := by
  refine ⟨h.length, fun {places} hsize {j} => ?_⟩
  rw [h.has hsize]
  exact exists_congr fun i => and_congr_right fun _ => hPQ i j

/-! ## Repetitions -/

theorem Follows.times (h : Follows s step P) (n : Nat) :
    Follows s (Nat.repeat step n) (P.times n) := by
  induction n with
  | zero => exact follows_empty s
  | succ n ih =>
      -- here the last turn comes apart, in `times` the first one
      refine (ih.followedBy h).congr fun i j => ?_
      rw [Part.spans_followedBy, Part.spans_times_add]
      exact exists_congr fun k => and_congr_right fun _ => Part.spans_times_one.symm

/-- Places from which a step leads to no others are not left in any number of steps. -/
theorem Follows.has_of_closed (h : Follows s step P) (hsize : places.length = s.length + 1)
    (hclosed : ∀ j, Places.has (step places) j → places.has j) {i j n : Nat} (hi : places.has i)
    (hspans : (P.times n).spans s i j) : places.has j := by
  induction n generalizing i with
  | zero => exact (Part.spans_times_zero.mp hspans).1 ▸ hi
  | succ n ih =>
      obtain ⟨k, hfirst, hrest⟩ := Part.spans_times_succ.mp hspans
      exact ih (hclosed k ((h.has hsize).mpr ⟨i, hi, hfirst⟩)) hrest

/-- To take one more turn or none, and then so many, is to take one more at most. -/
theorem spans_grown (most : Nat) :
    ((Pattern.empty.Matches.either P).followedBy (P.repeats (· ≤ most))).spans s i j ↔
      (P.repeats (· ≤ most + 1)).spans s i j := by
  simp only [Part.spans_followedBy, Part.spans_either, Part.spans_repeats]
  constructor
  · rintro ⟨k, hnone | hfirst, n, hn, hrest⟩
    · rw [((Part.spans_times_zero (P := P)).mp hnone).1]
      exact ⟨n, Nat.le_succ_of_le hn, hrest⟩
    · exact ⟨n + 1, Nat.succ_le_succ hn, Part.spans_times_succ.mpr ⟨k, hfirst, hrest⟩⟩
  · rintro ⟨n, hn, hspans⟩
    cases n with
    | zero =>
        have hle := Part.spans_le hspans
        have hnone : (P.times 0).spans s i i := Part.spans_times_zero.mpr ⟨rfl, by omega⟩
        exact ⟨i, .inl hnone, 0, Nat.zero_le _, hspans⟩
    | succ n =>
        obtain ⟨k, hfirst, hrest⟩ := Part.spans_times_succ.mp hspans
        exact ⟨k, .inr hfirst, n, Nat.le_of_succ_le_succ hn, hrest⟩

/-- **Places are added for as many turns as allowed, unless nothing new comes before that.** -/
theorem Follows.closure (h : Follows s step P) (most : Nat) :
    Follows s (closure step most) (P.repeats (· ≤ most)) := by
  induction most with
  | zero =>
      refine (follows_empty s).congr fun i j => ?_
      rw [Part.spans_repeats]
      constructor
      · intro hspans
        exact ⟨0, Nat.le_refl 0, hspans⟩
      · rintro ⟨n, hn, hspans⟩
        rw [Nat.le_zero.mp hn] at hspans
        exact hspans
  | succ most ih =>
      have hgrown := (follows_empty s).either h
      have hnext := (hgrown.followedBy ih).congr fun i j => spans_grown most
      refine ⟨fun {places} hsize => ?_, fun {places} hsize {j} => ?_⟩
      · rw [Pattern.closure]
        split
        · exact hsize
        · exact hnext.length hsize
      rw [Pattern.closure]
      split
      · -- nothing new has come, so nothing more will
        rename_i hsame
        have hclosed : ∀ k, Places.has (step places) k → places.has k := fun k hk => by
          obtain ⟨i, hi, hspans⟩ := (h.has hsize).mp hk
          have hk' := (hgrown.has hsize).mpr ⟨i, hi, Part.spans_either.mpr (.inr hspans)⟩
          rwa [id, beq_iff_eq.mp hsame] at hk'
        constructor
        · intro hj
          have hlt : j < places.length := (List.getElem?_eq_some_iff.mp hj).1
          have hspans : (P.times 0).spans s j j := Part.spans_times_zero.mpr ⟨rfl, by omega⟩
          exact ⟨j, hj, Part.spans_repeats.mpr ⟨0, Nat.zero_le _, hspans⟩⟩
        · rintro ⟨i, hi, hspans⟩
          obtain ⟨n, -, hspans⟩ := Part.spans_repeats.mp hspans
          exact h.has_of_closed hsize hclosed hi hspans
      · exact hnext.has hsize

theorem Follows.repeated {p : Pattern} (h : Follows s (p.advance s) p.Matches) (least : Nat)
    (most : Option Nat) :
    Follows s ((Pattern.repeated p least most).advance s)
      (Pattern.repeated p least most).Matches := by
  cases most with
  | some most =>
      refine ((h.times least).followedBy (h.closure (most - least))).congr fun i j => ?_
      simp only [Matches, Part.spans_followedBy, Part.spans_repeats]
      constructor
      · rintro ⟨k, hleast, n, hn, hrest⟩
        refine ⟨least + n, ⟨Nat.le_add_right _ _, fun m hm => ?_⟩,
          Part.spans_times_add.mpr ⟨k, hleast, hrest⟩⟩
        cases hm
        omega
      · rintro ⟨n, ⟨hleast, hmost⟩, hspans⟩
        have hn := hmost most rfl
        rw [← Nat.add_sub_cancel' hleast] at hspans
        obtain ⟨k, hfirst, hrest⟩ := Part.spans_times_add.mp hspans
        exact ⟨k, hfirst, n - least, by omega, hrest⟩
  | none =>
      refine ((h.times least).followedBy (h.closure (s.length + 1))).congr fun i j => ?_
      simp only [Matches, Part.spans_followedBy, Part.spans_repeats]
      constructor
      · rintro ⟨k, hleast, n, -, hrest⟩
        exact ⟨least + n, ⟨Nat.le_add_right _ _, nofun⟩,
          Part.spans_times_add.mpr ⟨k, hleast, hrest⟩⟩
      · rintro ⟨n, ⟨hleast, -⟩, hspans⟩
        rw [← Nat.add_sub_cancel' hleast] at hspans
        obtain ⟨k, hfirst, hrest⟩ := Part.spans_times_add.mp hspans
        -- of the further turns only those count in which something is taken
        obtain ⟨m, hm, hfewer⟩ := Part.exists_spans_times_le hrest
        exact ⟨k, hfirst, m, by omega, hfewer⟩

/-! ## Patterns -/

/-- **A pattern goes from the places where what it matches begins to those where it ends.** -/
theorem follows_advance (p : Pattern) (s : List Char) : Follows s (p.advance s) p.Matches := by
  induction p with
  | empty => exact follows_empty s
  | one set => exact follows_one set s
  | assert a => exact follows_assert a s
  | seq p q ihp ihq => exact ihp.followedBy ihq
  | alt p q ihp ihq => exact ihp.either ihq
  | repeated p least most ih => exact ih.repeated least most

/-- **A text matches a pattern exactly if it has a part that the pattern matches.** -/
theorem isMatch_iff (p : Pattern) (s : String) :
    p.isMatch s = true ↔
      ∃ before part after, s.toList = before ++ part ++ after ∧ p.Matches before part after := by
  have hfollows := follows_advance p s.toList
  have hsize : (List.replicate (s.toList.length + 1) true).length = s.toList.length + 1 :=
    List.length_replicate ..
  rw [isMatch, List.any_eq_true]
  constructor
  · rintro ⟨x, hx, htrue⟩
    obtain ⟨j, hj⟩ := List.mem_iff_getElem?.mp hx
    rw [show x = true from htrue] at hj
    obtain ⟨i, -, before, part, after, hs, -, -, hmatches⟩ := (hfollows.has hsize).mp hj
    exact ⟨before, part, after, hs, hmatches⟩
  · rintro ⟨before, part, after, hs, hmatches⟩
    have hstart : Places.has (List.replicate (s.toList.length + 1) true) before.length := by
      rw [Places.has, List.getElem?_replicate, if_pos]
      rw [hs]
      simp only [List.length_append]
      omega
    have hj := (hfollows.has hsize).mpr ⟨_, hstart, before, part, after, hs, rfl, rfl, hmatches⟩
    exact ⟨true, List.mem_of_getElem? hj, rfl⟩

end Pattern

end EntityMapper
