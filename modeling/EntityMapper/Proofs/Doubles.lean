import EntityMapper.Number.Binary64
import Mathlib.Algebra.Order.Ring.Int
import Mathlib.Tactic.Ring

/-!
# Doubles as exact numbers

A finite double is a whole count of units, and an integer is one as well. So the two can be compared
without rounding, and what rounding does can be measured: the double made from an integer is one to
which no other double is nearer, and up to 2^53 it is the integer itself.
-/

namespace EntityMapper.Number

namespace Format

variable {f : Format} {n m k shift mantissa : Nat}

/-! ## Rounding to a multiple -/

theorem le_divideToEven {num den : Nat} (hden : 0 < den) (h : k * den ≤ num) :
    k ≤ divideToEven num den := by
  have hquotient : k ≤ num / den := (Nat.le_div_iff_mul_le hden).mpr h
  simp only [divideToEven]
  split <;> omega

theorem divideToEven_le {num den : Nat} (hden : 0 < den) (h : num ≤ k * den) :
    divideToEven num den ≤ k := by
  have hquotient : num / den ≤ k := Nat.div_le_of_le_mul (by rwa [Nat.mul_comm])
  have hsplit := Nat.div_add_mod num den
  simp only [divideToEven]
  split
  · -- the quotient is rounded up, so it was no multiple
    rename_i hup
    have hne : num / den ≠ k := by
      rintro rfl
      rw [Nat.mul_comm] at h
      omega
    omega
  · exact hquotient

/-- No multiple of the divisor is nearer to the dividend than the rounded quotient. -/
theorem divideToEven_nearest (num : Nat) {den : Nat} (hden : 0 < den) (k : Nat) :
    ((divideToEven num den * den : Nat) - num : Int).natAbs ≤
      ((k * den : Nat) - num : Int).natAbs := by
  have hsplit := Nat.div_add_mod' num den
  have hrest := Nat.mod_lt num hden
  have hside : k * den ≤ num / den * den ∨ num / den * den + den ≤ k * den := by
    rcases Nat.lt_or_ge (num / den) k with hk | hk
    · exact .inr (by simpa [Nat.add_mul] using Nat.mul_le_mul_right den hk)
    · exact .inl (Nat.mul_le_mul_right den hk)
  simp only [divideToEven]
  split
  · rw [Nat.add_mul, Nat.one_mul]
    omega
  · omega

/-! ## Patterns and their units -/

/-- How far the patterns that stand for about so many units lie apart. -/
def spacing (f : Format) (n : Nat) : Nat := 2 ^ (n.log2 - f.fractionBits)

theorem spacing_pos (f : Format) (n : Nat) : 0 < f.spacing n := Nat.two_pow_pos _

/-- A mantissa of full length, or a shorter one that is not shifted, is read as it is. -/
theorem units_add_mantissa (hlow : 2 ^ f.fractionBits ≤ mantissa ∨ shift = 0)
    (hhigh : mantissa ≤ 2 * 2 ^ f.fractionBits) :
    f.units (shift * 2 ^ f.fractionBits + mantissa) = mantissa * 2 ^ shift := by
  have hpos : 0 < 2 ^ f.fractionBits := Nat.two_pow_pos _
  have hdiv := Nat.mul_add_div hpos shift mantissa
  have hmod := Nat.mul_add_mod (2 ^ f.fractionBits) shift mantissa
  rw [Nat.mul_comm] at hdiv hmod
  simp only [units, hdiv, hmod]
  generalize 2 ^ f.fractionBits = top at *
  rcases Nat.lt_or_ge mantissa top with hshort | hfull
  · -- no leading bit
    obtain rfl : shift = 0 := by omega
    simp [Nat.div_eq_of_lt hshort, Nat.mod_eq_of_lt hshort]
  rcases Nat.lt_or_eq_of_le hhigh with hlt | rfl
  · have hone : mantissa / top = 1 := Nat.div_eq_of_lt_le (by omega) (by omega)
    have hfraction : mantissa % top = mantissa - top := by
      rw [Nat.mod_eq_sub_mod hfull, Nat.mod_eq_of_lt (by omega)]
    rw [hone, hfraction, if_neg (by omega), Nat.add_sub_cancel, Nat.add_sub_of_le hfull]
  · -- the mantissa has carried into the exponent
    rw [Nat.mul_div_cancel _ hpos, Nat.mul_mod_left, if_neg (by omega), Nat.add_zero,
      show shift + 2 - 1 = shift + 1 from rfl, Nat.pow_succ]
    ring

theorem mantissa_bounds (f : Format) (n : Nat) :
    (2 ^ f.fractionBits ≤ divideToEven n (f.spacing n) ∨ n.log2 - f.fractionBits = 0) ∧
      divideToEven n (f.spacing n) ≤ 2 * 2 ^ f.fractionBits := by
  refine ⟨?_, divideToEven_le (f.spacing_pos n) ?_⟩
  · by_cases hshift : n.log2 - f.fractionBits = 0
    · exact .inr hshift
    · refine .inl (le_divideToEven (f.spacing_pos n) ?_)
      have hn : n ≠ 0 := by
        rintro rfl
        simp at hshift
      calc 2 ^ f.fractionBits * f.spacing n
        _ = 2 ^ n.log2 := by rw [spacing, ← Nat.pow_add]; congr 1; omega
        _ ≤ n := Nat.log2_self_le hn
  · calc n
      _ ≤ 2 ^ (n.log2 + 1) := Nat.le_of_lt Nat.lt_log2_self
      _ ≤ 2 ^ (1 + f.fractionBits + (n.log2 - f.fractionBits)) :=
          Nat.pow_le_pow_right (by decide) (by omega)
      _ = 2 * 2 ^ f.fractionBits * f.spacing n := by
          rw [Nat.pow_add, Nat.pow_add, Nat.pow_one, spacing]

theorem round_one_eq (f : Format) (n : Nat) :
    f.round n 1 = min ((n.log2 - f.fractionBits) * 2 ^ f.fractionBits +
      divideToEven n (f.spacing n)) f.infinity := by
  rw [round, Nat.div_one, Nat.one_mul, spacing]

/-- A number of units is rounded to a multiple of the spacing around it. -/
theorem units_round (h : f.round n 1 < f.infinity) :
    f.units (f.round n 1) = divideToEven n (f.spacing n) * f.spacing n := by
  obtain ⟨hlow, hhigh⟩ := f.mantissa_bounds n
  rw [round_one_eq] at h ⊢
  rw [Nat.min_eq_left (by omega), units_add_mantissa hlow hhigh]
  rfl

theorem round_le (h : n < 2 ^ (f.fractionBits + k + 1)) :
    f.round n 1 ≤ (k + 2) * 2 ^ f.fractionBits := by
  have hshift : n.log2 - f.fractionBits ≤ k := by
    rcases Nat.eq_zero_or_pos n with rfl | hn
    · simp
    · have := (Nat.log2_lt (by omega)).mpr h
      omega
  have hmantissa := (f.mantissa_bounds n).2
  have hproduct := Nat.mul_le_mul_right (2 ^ f.fractionBits) hshift
  rw [round_one_eq, Nat.add_mul]
  omega

/-- Where the patterns stand for more than a number, the spacing around it divides them. -/
theorem spacing_dvd_units (h : 2 ^ n.log2 ≤ f.units m) : f.spacing n ∣ f.units m := by
  by_cases hshift : n.log2 - f.fractionBits = 0
  · rw [spacing, hshift, Nat.pow_zero]
    exact Nat.one_dvd _
  have hfraction : m % 2 ^ f.fractionBits < 2 ^ f.fractionBits :=
    Nat.mod_lt _ (Nat.two_pow_pos _)
  simp only [units] at h ⊢
  split at h
  · have hlow : 2 ^ f.fractionBits ≤ 2 ^ n.log2 := Nat.pow_le_pow_right (by decide) (by omega)
    omega
  · rename_i hexponent
    rw [if_neg hexponent]
    generalize m / 2 ^ f.fractionBits = exponent at h hexponent ⊢
    have hlog : n.log2 < 1 + f.fractionBits + (exponent - 1) := by
      refine (Nat.pow_lt_pow_iff_right (a := 2) (by decide)).mp (Nat.lt_of_le_of_lt h ?_)
      rw [Nat.pow_add, Nat.pow_add, Nat.pow_one]
      exact Nat.mul_lt_mul_of_pos_right (by omega) (Nat.two_pow_pos _)
    exact Nat.dvd_mul_left_of_dvd (Nat.pow_dvd_pow 2 (by omega)) _

/-- No pattern stands for a number nearer to the one that was rounded. -/
theorem units_round_nearest (h : f.round n 1 < f.infinity) (m : Nat) :
    ((f.units (f.round n 1) : Int) - n).natAbs ≤ ((f.units m : Int) - n).natAbs := by
  have hnearest := divideToEven_nearest n (f.spacing_pos n)
  rw [units_round h]
  rcases Nat.lt_or_ge (f.units m) (2 ^ n.log2) with hbelow | habove
  · rcases Nat.eq_zero_or_pos n with rfl | hn
    · have := hnearest 0
      omega
    · -- the power of two under the number is a multiple that is nearer
      have hpower : 2 ^ n.log2 ≤ n := Nat.log2_self_le (by omega)
      have hdvd : f.spacing n ∣ 2 ^ n.log2 := Nat.pow_dvd_pow 2 (Nat.sub_le ..)
      obtain ⟨k, hk⟩ := hdvd
      have := hnearest k
      rw [Nat.mul_comm k, ← hk] at this
      omega
  · obtain ⟨k, hk⟩ := spacing_dvd_units habove
    have := hnearest k
    rwa [Nat.mul_comm k, ← hk] at this

theorem units_round_of_dvd (h : f.round n 1 < f.infinity) (hdvd : f.spacing n ∣ n) :
    f.units (f.round n 1) = n := by
  obtain ⟨k, hk⟩ := hdvd
  have := divideToEven_nearest n (f.spacing_pos n) k
  rw [units_round h]
  rw [Nat.mul_comm k, ← hk] at this
  omega

end Format

namespace Binary64

variable {x y : Binary64} {n : Int} {u v : Int}

/-! ## Readings -/

/-- How many units make the number one. -/
def unitsPerOne : Nat := 2 ^ Format.double.oneExponent

/-- An integer, counted in units. -/
def wholeUnits (n : Int) : Int := n * unitsPerOne

/-- `x.IsExactly n` when a double is finite and is the integer, without any rounding. -/
def IsExactly (x : Binary64) (n : Int) : Prop := x.reading = .finite (wholeUnits n)

instance (x : Binary64) (n : Int) : Decidable (x.IsExactly n) :=
  inferInstanceAs (Decidable (_ = _))

theorem unitsPerOne_pos : 0 < unitsPerOne := Nat.two_pow_pos _

theorem natAbs_wholeUnits (n : Int) : (wholeUnits n).natAbs = n.natAbs * unitsPerOne := by
  rw [wholeUnits, Int.natAbs_mul, Int.natAbs_natCast]

theorem wholeUnits_mono {n m : Int} (h : n ≤ m) : wholeUnits n ≤ wholeUnits m :=
  Int.mul_le_mul_of_nonneg_right h (Int.natCast_nonneg _)

theorem reading_eq_finite : x.reading = .finite u ↔
    x.isFinite = true ∧
      u = if x.isNegative then -(Format.double.units x.magnitude : Int)
        else Format.double.units x.magnitude := by
  simp only [reading, isNaN, isInfinite, isFinite, decide_eq_true_eq]
  split
  · simp; omega
  split
  · split <;> simp <;> omega
  · simp only [Reading.finite.injEq]
    constructor
    · rintro rfl
      exact ⟨by omega, rfl⟩
    · rintro ⟨-, rfl⟩
      rfl

theorem toNat_ofMagnitude (negative : Bool) {m : Nat} (h : m < Format.double.signBit) :
    (ofMagnitude negative m).bits.toNat =
      (if negative then Format.double.signBit else 0) + m := by
  have hbits : Format.double.signBit + Format.double.signBit = 2 ^ 64 := by decide
  rw [ofMagnitude, UInt64.toNat_ofNat']
  apply Nat.mod_eq_of_lt
  split <;> omega

theorem infinity_lt_signBit : Format.double.infinity < Format.double.signBit := by decide

theorem reading_ofMagnitude {negative : Bool} {m : Nat} (h : m < Format.double.infinity) :
    (ofMagnitude negative m).reading =
      .finite (if negative then -(Format.double.units m : Int) else Format.double.units m) := by
  have hbelow : m < Format.double.signBit := Nat.lt_trans h infinity_lt_signBit
  have hbits := toNat_ofMagnitude negative hbelow
  have hmagnitude : (ofMagnitude negative m).magnitude = m := by
    rw [magnitude, hbits]
    cases negative <;> simp [Nat.mod_eq_of_lt hbelow]
  have hsign : (ofMagnitude negative m).isNegative = negative := by
    rw [isNegative, hbits]
    cases negative <;> simp [hbelow]
  rw [reading_eq_finite, isFinite, hmagnitude, hsign]
  exact ⟨decide_eq_true h, rfl⟩

/-! ## The double of an integer -/

theorem round_lt_infinity (h : n.natAbs ≤ 2 ^ 63) :
    Format.double.round (n.natAbs * unitsPerOne) 1 < Format.double.infinity := by
  have hbelow : n.natAbs * unitsPerOne < 2 ^ (Format.double.fractionBits + 1085 + 1) :=
    calc n.natAbs * unitsPerOne
      _ ≤ 2 ^ 63 * unitsPerOne := Nat.mul_le_mul_right _ h
      _ = 2 ^ (63 + Format.double.oneExponent) := by rw [unitsPerOne, ← Nat.pow_add]
      _ < 2 ^ (Format.double.fractionBits + 1085 + 1) :=
          Nat.pow_lt_pow_right (by decide) (by decide)
  exact Nat.lt_of_le_of_lt (Format.round_le hbelow) (by decide)

/-- The integer rounded to the nearest pattern, with its sign. -/
theorem reading_ofInt (h : n.natAbs ≤ 2 ^ 63) :
    (ofInt n).reading = .finite (if n < 0
      then -(Format.double.units (Format.double.round (n.natAbs * unitsPerOne) 1) : Int)
      else Format.double.units (Format.double.round (n.natAbs * unitsPerOne) 1)) := by
  rw [ofInt, ← unitsPerOne, reading_ofMagnitude (round_lt_infinity h)]
  simp only [decide_eq_true_eq]

/-- **No double is nearer to an integer than the one made from it.** -/
theorem ofInt_nearest (h : n.natAbs ≤ 2 ^ 63) (hx : (ofInt n).reading = .finite u)
    (hy : y.reading = .finite v) : (u - wholeUnits n).natAbs ≤ (v - wholeUnits n).natAbs := by
  have hnearest := Format.units_round_nearest (round_lt_infinity h)
  have hsame := hnearest y.magnitude
  -- a double of the other sign is at least as far away as zero
  have hzero := hnearest 0
  have hempty : Format.double.units 0 = 0 := rfl
  have habs := natAbs_wholeUnits n
  have hsign : n < 0 ∧ wholeUnits n ≤ 0 ∨ 0 ≤ n ∧ 0 ≤ wholeUnits n := by
    rcases Int.lt_or_le n 0 with hn | hn
    · exact .inl ⟨hn, Int.mul_nonpos_of_nonpos_of_nonneg (by omega) (by omega)⟩
    · exact .inr ⟨hn, Int.mul_nonneg hn (by omega)⟩
  rw [reading_ofInt h, Reading.finite.injEq] at hx
  have hv := (reading_eq_finite.mp hy).2
  rw [← habs] at hx hsame hzero
  split at hx <;> split at hv <;> omega

theorem log2_whole_lt {k e : Nat} (hk : k < 2 ^ e) :
    (k * unitsPerOne).log2 < e + Format.double.oneExponent := by
  rcases Nat.eq_zero_or_pos k with rfl | hpos
  · rw [Nat.zero_mul]
    exact Nat.lt_of_lt_of_le (by decide) (Nat.le_add_left ..)
  · have hne : k * unitsPerOne ≠ 0 := Nat.ne_of_gt (Nat.mul_pos hpos unitsPerOne_pos)
    rw [Nat.log2_lt hne, Nat.pow_add]
    exact Nat.mul_lt_mul_of_pos_right hk unitsPerOne_pos

theorem spacing_dvd_whole {k : Nat} (h : k ≤ 2 ^ 53) :
    Format.double.spacing (k * unitsPerOne) ∣ k * unitsPerOne := by
  have hbits : Format.double.fractionBits = 52 := rfl
  rcases Nat.lt_or_eq_of_le h with hlt | rfl
  · have hlog := log2_whole_lt hlt
    exact Nat.dvd_mul_left_of_dvd (Nat.pow_dvd_pow 2 (by omega)) k
  · have hlog := log2_whole_lt (k := 2 ^ 53) (e := 54) (by decide)
    rw [unitsPerOne, ← Nat.pow_add, Format.spacing] at *
    exact Nat.pow_dvd_pow 2 (by omega)

/-- Up to 2^53 no rounding is needed. -/
theorem ofInt_isExactly (h : n.natAbs ≤ 2 ^ 53) : (ofInt n).IsExactly n := by
  have hinfinity := round_lt_infinity (n := n) (by omega)
  have hdvd := spacing_dvd_whole h
  have hexact := Format.units_round_of_dvd hinfinity hdvd
  rw [IsExactly, reading_ofInt (by omega), hexact, Reading.finite.injEq, wholeUnits]
  split
  · rw [Int.natCast_mul, ← Int.neg_mul]
    congr 1
    omega
  · rw [Int.natCast_mul]
    congr 1
    omega

/-! ## Whole numbers -/

theorem isExactly_unique {m : Int} (hn : x.IsExactly n) (hm : x.IsExactly m) : n = m := by
  have hunits : wholeUnits n = wholeUnits m := Reading.finite.inj (hn.symm.trans hm)
  exact Int.eq_of_mul_eq_mul_right (Int.natCast_ne_zero.mpr (Nat.ne_of_gt unitsPerOne_pos)) hunits

theorem magnitude_of_isExactly (h : x.IsExactly n) :
    x.isFinite = true ∧ Format.double.units x.magnitude = n.natAbs * unitsPerOne ∧
      n = if x.isNegative then -(n.natAbs : Int) else n.natAbs := by
  obtain ⟨hfinite, hunits⟩ := reading_eq_finite.mp h
  have habs := natAbs_wholeUnits n
  have hpos : (0 : Int) < unitsPerOne := Int.natCast_pos.mpr unitsPerOne_pos
  cases hsign : x.isNegative with
  | true =>
    rw [hsign, if_pos rfl] at hunits
    have hn : n ≤ 0 := Int.nonpos_of_mul_nonpos_left (show wholeUnits n ≤ 0 by omega) hpos
    exact ⟨hfinite, by omega, by rw [if_pos rfl]; omega⟩
  | false =>
    rw [hsign, if_neg nofun] at hunits
    have hn : 0 ≤ n := Int.nonneg_of_mul_nonneg_left (show 0 ≤ wholeUnits n by omega) hpos
    exact ⟨hfinite, by omega, by rw [if_neg nofun]; omega⟩

theorem isWhole_iff : x.isWhole = true ↔ ∃ n, x.IsExactly n := by
  rw [isWhole, ← unitsPerOne, Bool.and_eq_true, decide_eq_true_eq]
  constructor
  · rintro ⟨hfinite, hrest⟩
    obtain ⟨k, hk⟩ := Nat.dvd_of_mod_eq_zero hrest
    refine ⟨if x.isNegative then -k else k, reading_eq_finite.mpr ⟨hfinite, ?_⟩⟩
    rw [hk, wholeUnits]
    split <;> push_cast <;> ring
  · rintro ⟨n, h⟩
    obtain ⟨hfinite, hunits, -⟩ := magnitude_of_isExactly h
    exact ⟨hfinite, by rw [hunits, Nat.mul_mod_left]⟩

theorem truncate_of_isExactly (h : x.IsExactly n) : x.truncate = n := by
  obtain ⟨-, hunits, hsign⟩ := magnitude_of_isExactly h
  rw [truncate, ← unitsPerOne, hunits, Nat.mul_div_cancel _ unitsPerOne_pos]
  exact hsign.symm

/-- A whole number is cut to the nearest one of 64 bits. -/
theorem toInt_toInt64Saturating (h : x.IsExactly n) :
    x.toInt64Saturating.toInt = max (-2 ^ 63) (min n (2 ^ 63 - 1)) := by
  have hmin : Int64.minValue.toInt = -2 ^ 63 := rfl
  have hmax : Int64.maxValue.toInt = 2 ^ 63 - 1 := rfl
  rw [toInt64Saturating, h, truncate_of_isExactly h]
  dsimp only
  split
  · omega
  split
  · omega
  · rw [Int64.toInt_ofInt_of_le (by omega) (by omega)]
    omega

end Binary64

end EntityMapper.Number
