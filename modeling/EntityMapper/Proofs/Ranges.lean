import EntityMapper.Check
import EntityMapper.Proofs.Doubles

/-!
# Ranges of numbers

A range has doubles as bounds, and an integer is made a double before it is compared. So a double is
judged by its exact value, and an integer by that of the double nearest to it. All integers in the
range pass. One outside of it passes as well if the bound that it misses is the double nearest to
it, which takes a bound of 2^53 or more.
-/

namespace EntityMapper

open Number Binary64

namespace Check

/-- `Within a b v` when a value is NULL or a number from `a` to `b`, both counted in units. Nothing
is rounded. -/
inductive Within (a b : Int) : Value → Prop
  | null : Within a b .null
  | int {n : Int64} :
      a ≤ wholeUnits n.toInt → wholeUnits n.toInt ≤ b → Within a b (.int n)
  | float {x : Binary64} {u : Int} : x.reading = .finite u → a ≤ u → u ≤ b → Within a b (.float x)

/-- An integer outside of the bounds whose double is the bound that it misses. -/
def RoundsOnto (a b : Int) (n : Int64) : Prop :=
  (wholeUnits n.toInt < a ∧ (ofInt n.toInt).reading = .finite a) ∨
    (b < wholeUnits n.toInt ∧ (ofInt n.toInt).reading = .finite b)

end Check

variable {least most x y : Binary64} {a b u v : Int}

theorem le_iff_of_finite (hx : x.reading = .finite u) (hy : y.reading = .finite v) :
    x.le y = true ↔ u ≤ v := by
  rw [Binary64.le, hx, hy, Reading.le, decide_eq_true_eq]

theorem natAbs_toInt_le (n : Int64) : n.toInt.natAbs ≤ 2 ^ 63 := by
  have hlower := n.le_toInt
  have hupper := n.toInt_lt
  omega

/-! ## Integers -/

theorem exists_reading_ofInt (n : Int64) : ∃ u, (ofInt n.toInt).reading = .finite u :=
  ⟨_, reading_ofInt (natAbs_toInt_le n)⟩

theorem range_int_iff (hleast : least.reading = .finite a) (hmost : most.reading = .finite b)
    (n : Int64) : Check.range least most (.int n) = true ↔
      (a ≤ wholeUnits n.toInt ∧ wholeUnits n.toInt ≤ b) ∨ a ≤ b ∧ Check.RoundsOnto a b n := by
  obtain ⟨r, hr⟩ := exists_reading_ofInt n
  have hrange : Check.range least most (.int n) = true ↔ a ≤ r ∧ r ≤ b := by
    simp only [Check.range, Value.float?, Option.any_some, Bool.and_eq_true,
      le_iff_of_finite hleast hr, le_iff_of_finite hr hmost]
  -- neither bound is nearer to the integer than its double
  have hfrom := ofInt_nearest (natAbs_toInt_le n) hr hleast
  have hto := ofInt_nearest (natAbs_toInt_le n) hr hmost
  rw [hrange, Check.RoundsOnto, hr, Reading.finite.injEq, Reading.finite.injEq]
  omega

/-! ## Bounds that are rounded onto -/

theorem far_of_roundsOnto {n : Int64} (h : Check.RoundsOnto a b n) : 2 ^ 53 < n.toInt.natAbs := by
  by_contra hsmall
  have hexact := ofInt_isExactly (n := n.toInt) (by omega)
  rw [Check.RoundsOnto, hexact, Reading.finite.injEq, Reading.finite.injEq] at h
  omega

/-- Between a small bound and the integer there is the double 2^53 or its opposite. -/
theorem not_roundsOnto_of_small {n : Int64} (ha : a.natAbs < 2 ^ 53 * unitsPerOne)
    (hb : b.natAbs < 2 ^ 53 * unitsPerOne) : ¬Check.RoundsOnto a b n := by
  intro h
  have hfar := far_of_roundsOnto h
  have hpower : wholeUnits (2 ^ 53) = (2 ^ 53 * unitsPerOne : Nat) := by
    rw [wholeUnits, Int.natCast_mul, Int.natCast_pow]
    rfl
  have hopposite : wholeUnits (-2 ^ 53) = -(2 ^ 53 * unitsPerOne : Nat) := by
    rw [← hpower, wholeUnits, wholeUnits, Int.neg_mul]
  have hexact : ∀ m : Int, m.natAbs ≤ 2 ^ 53 → (ofInt m).reading = .finite (wholeUnits m) :=
    fun m => ofInt_isExactly
  -- an integer that is so far out can only miss the bound on its own side
  rcases (by omega : n.toInt ≤ -2 ^ 53 ∨ 2 ^ 53 ≤ n.toInt) with hn | hn
  · have hside := wholeUnits_mono hn
    rcases h with ⟨hout, hread⟩ | ⟨hout, -⟩
    · have hnear := ofInt_nearest (natAbs_toInt_le n) hread (hexact (-2 ^ 53) (by decide))
      omega
    · omega
  · have hside := wholeUnits_mono hn
    rcases h with ⟨hout, -⟩ | ⟨hout, hread⟩
    · omega
    · have hnear := ofInt_nearest (natAbs_toInt_le n) hread (hexact (2 ^ 53) (by decide))
      omega

/-! ## All values -/

theorem range_float_iff (hleast : least.reading = .finite a) (hmost : most.reading = .finite b)
    (x : Binary64) : Check.range least most (.float x) = true ↔
      ∃ u, x.reading = .finite u ∧ a ≤ u ∧ u ≤ b := by
  simp only [Check.range, Value.float?, Option.any_some, Bool.and_eq_true, Binary64.le, hleast,
    hmost]
  cases x.reading <;> simp [Reading.le]

/-- Values that are neither NULL nor a number pass no range. -/
theorem range_iff_within (hleast : least.reading = .finite a) (hmost : most.reading = .finite b)
    (v : Value) : Check.range least most v = true ↔
      Check.Within a b v ∨ a ≤ b ∧ ∃ n, v = .int n ∧ Check.RoundsOnto a b n := by
  cases v with
  | null => exact ⟨fun _ => .inl .null, fun _ => rfl⟩
  | int n =>
    rw [range_int_iff hleast hmost]
    constructor
    · rintro (⟨hfrom, hto⟩ | ⟨hab, hround⟩)
      · exact .inl (.int hfrom hto)
      · exact .inr ⟨hab, n, rfl, hround⟩
    · rintro (hwithin | ⟨hab, _, hn, hround⟩)
      · cases hwithin with
        | int hfrom hto => exact .inl ⟨hfrom, hto⟩
      · cases hn
        exact .inr ⟨hab, hround⟩
  | float x =>
    rw [range_float_iff hleast hmost]
    constructor
    · rintro ⟨u, hu, hfrom, hto⟩
      exact .inl (.float hu hfrom hto)
    · rintro (hwithin | ⟨-, _, hx, -⟩)
      · cases hwithin with
        | float hu hfrom hto => exact ⟨_, hu, hfrom, hto⟩
      · cases hx
  | _ =>
    refine ⟨nofun, ?_⟩
    rintro (hwithin | ⟨-, _, hv, -⟩)
    · cases hwithin
    · cases hv

/-- **A range judges by exact value, apart from integers that are rounded onto a bound.**

Every value in the range passes. What else passes is an integer beyond 2^53 outside of the bounds,
one of which is the nearest double to it. Where both bounds are smaller than 2^53 there is none. -/
theorem range_decides (hleast : least.reading = .finite a) (hmost : most.reading = .finite b) :
    (∀ v, Check.range least most v = true ↔
      Check.Within a b v ∨ a ≤ b ∧ ∃ n, v = .int n ∧ Check.RoundsOnto a b n) ∧
    (∀ n, Check.RoundsOnto a b n → 2 ^ 53 < n.toInt.natAbs ∧ ∃ c, (c = a ∨ c = b) ∧
      ∀ (y : Binary64) (u : Int), y.reading = .finite u →
        (c - wholeUnits n.toInt).natAbs ≤ (u - wholeUnits n.toInt).natAbs) ∧
    (a.natAbs < 2 ^ 53 * unitsPerOne → b.natAbs < 2 ^ 53 * unitsPerOne →
      ∀ v, Check.range least most v = true ↔ Check.Within a b v) := by
  refine ⟨range_iff_within hleast hmost, fun n h => ⟨far_of_roundsOnto h, ?_⟩, fun ha hb v => ?_⟩
  · rcases h with ⟨-, hread⟩ | ⟨-, hread⟩
    · exact ⟨a, .inl rfl, fun y u => ofInt_nearest (natAbs_toInt_le n) hread⟩
    · exact ⟨b, .inr rfl, fun y u => ofInt_nearest (natAbs_toInt_le n) hread⟩
  · rw [range_iff_within hleast hmost]
    refine or_iff_left ?_
    rintro ⟨-, n, -, hround⟩
    exact not_roundsOnto_of_small ha hb hround

/-- The range from a tenth to 150. -/
theorem range_decides_tenth :
    let tenth : Binary64 := ⟨0x3FB999999999999A⟩
    let most : Binary64 := ⟨0x4062C00000000000⟩
    let a : Int := Format.double.units tenth.magnitude
    tenth.reading = .finite a ∧ most.reading = .finite (wholeUnits 150) ∧
      ∀ v, Check.range tenth most v = true ↔ Check.Within a (wholeUnits 150) v := by
  intro tenth most a
  have htenth : tenth.reading = .finite a := by decide +kernel
  have hmost : most.reading = .finite (wholeUnits 150) := by decide +kernel
  exact ⟨htenth, hmost,
    (range_decides htenth hmost).2.2 (by decide +kernel) (by decide +kernel)⟩

/-- The integer after 2^53 passes a range that ends at 2^53. -/
theorem range_passes_beyond :
    let zero : Binary64 := ⟨0⟩
    let most : Binary64 := ⟨0x4340000000000000⟩
    zero.IsExactly 0 ∧ most.IsExactly (2 ^ 53) ∧
      Check.range zero most (.int 9007199254740993) = true ∧
      ¬Check.Within (wholeUnits 0) (wholeUnits (2 ^ 53)) (.int 9007199254740993) := by
  intro zero most
  refine ⟨by decide +kernel, by decide +kernel, by decide +kernel, fun hwithin => ?_⟩
  cases hwithin with
  | int hfrom hto => exact absurd hto (by decide +kernel)

end EntityMapper
