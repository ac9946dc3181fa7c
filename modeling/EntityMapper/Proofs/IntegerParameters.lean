import EntityMapper.Proofs.Doubles
import EntityMapper.Proofs.WireFormat

/-!
# Numbers as integer parameters

The type of a parameter decides how many bytes an integer takes, and the type of a column decides
how many are read. They agree on the three types with a sign: a number in range comes back, and any
other is refused. They do not agree on the numbers of objects, which are written with eight bytes
and read with four.

A double goes to an integer parameter as the integer that it is. Beyond 64 bits it is no longer
that integer: two of the types refuse it, and the widest one writes the end of its range.
-/

namespace EntityMapper

open Number Wire

/-! ## Types of integers -/

namespace Wire.ScalarType

/-- The types of integers with a sign. -/
def signedIntegers : List ScalarType := [.int2, .int4, .int8]

/-- The types that integers are read from. -/
def integers : List ScalarType := .oid :: signedIntegers

/-- How many bytes an integer of the type takes. -/
def integerWidth : ScalarType → Nat
  | .int2 => 2
  | .int4 | .oid => 4
  | .int8 => 8
  | _ => 0

/-- Whether an integer is in the range of a type; numbers of objects have no sign. -/
def Holds (t : ScalarType) (n : Int) : Prop :=
  if t = .oid then 0 ≤ n ∧ n < (256 ^ t.integerWidth : Nat) else Fits t.integerWidth n

instance (t : ScalarType) (n : Int) : Decidable (t.Holds n) := by
  unfold Holds
  infer_instance

theorem signed_or_oid {t : ScalarType} (ht : t ∈ integers) : t ∈ signedIntegers ∨ t = .oid := by
  simpa [integers, or_comm] using ht

theorem cases_signed {t : ScalarType} (ht : t ∈ signedIntegers) :
    t = .int2 ∨ t = .int4 ∨ t = .int8 := by
  simpa [signedIntegers] using ht

theorem holds_iff_fits {t : ScalarType} {n : Int} (ht : t ∈ signedIntegers) :
    t.Holds n ↔ Fits t.integerWidth n := by
  have hne : t ≠ .oid := by
    rintro rfl
    exact absurd ht (by decide)
  rw [Holds, if_neg hne]

end Wire.ScalarType

variable {t : ScalarType} {n : Int} {x : Binary64}

/-! ## One integer -/

theorem encodeInteger_eq (ht : t ∈ ScalarType.signedIntegers) (hn : Fits 8 n) :
    Value.encodeInteger (.scalar t) n = Value.encodeNarrow t.integerWidth n := by
  rcases ScalarType.cases_signed ht with rfl | rfl | rfl
  · rfl
  · rfl
  · -- nothing is checked here, and nothing has to be
    exact (encodeNarrow_of_fits hn).symm

theorem encodeInteger_of_holds (ht : t ∈ ScalarType.signedIntegers) (hn : Fits 8 n)
    (h : t.Holds n) : Value.encodeInteger (.scalar t) n = .ok (encodeInt t.integerWidth n) := by
  rw [encodeInteger_eq ht hn, encodeNarrow_of_fits ((ScalarType.holds_iff_fits ht).mp h)]

theorem encodeInteger_of_not_holds (ht : t ∈ ScalarType.signedIntegers) (hn : Fits 8 n)
    (h : ¬t.Holds n) :
    Value.encodeInteger (.scalar t) n = .error (if n < 0 then .tooSmall else .tooLarge) := by
  rw [ScalarType.holds_iff_fits ht, Fits] at h
  rw [encodeInteger_eq ht hn, Value.encodeNarrow]
  generalize 256 ^ t.integerWidth / 2 = half at h ⊢
  split
  · rw [if_neg (by omega)]
  · rw [if_pos (by omega), if_pos (by omega)]

theorem decodeScalar?_eq (ht : t ∈ ScalarType.signedIntegers) (bytes : List UInt8) :
    decodeScalar? t bytes = (decodeInt? t.integerWidth bytes).map fun n => .int (.ofInt n) := by
  rcases ScalarType.cases_signed ht with rfl | rfl | rfl <;> rfl

theorem decodeField_integer (ht : t ∈ ScalarType.integers) (bytes : List UInt8) :
    decodeField (.scalar t) (some bytes) = orMalformed (decodeScalar? t bytes) := by
  have hreadable : ∀ t ∈ ScalarType.integers, t.isReadable = true := by decide
  rw [decodeField, if_pos (hreadable t ht), decodeNullable?]

theorem decodeField_encodeInt (ht : t ∈ ScalarType.signedIntegers) {n : Int64}
    (h : t.Holds n.toInt) :
    decodeField (.scalar t) (some (encodeInt t.integerWidth n.toInt)) = .ok (.int n) := by
  have hfits := (ScalarType.holds_iff_fits ht).mp h
  rw [decodeField_integer (List.mem_cons_of_mem _ ht), decodeScalar?_eq ht,
    decodeInt?_encodeInt hfits, Option.map_some, Int64.ofInt_toInt]
  rfl

/-- What a type of integers owes an integer: in range it is written and comes back, out of range it
is refused. -/
structure Wire.ScalarType.Keeps (t : ScalarType) (n : Int64) : Prop where
  kept : t.Holds n.toInt → ∃ field,
    (Value.int n).encode (.scalar t) = .ok field ∧ decodeField (.scalar t) field = .ok (.int n)
  refused : ¬t.Holds n.toInt → ∃ e, (Value.int n).encode (.scalar t) = .error e

theorem encode_int (t : ScalarType) (n : Int64) :
    (Value.int n).encode (.scalar t) = (Value.encodeInteger (.scalar t) n.toInt).map some := by
  rw [Value.encode]

theorem keeps_of_signed (ht : t ∈ ScalarType.signedIntegers) (n : Int64) : t.Keeps n where
  kept h := by
    refine ⟨some (encodeInt t.integerWidth n.toInt), ?_, decodeField_encodeInt ht h⟩
    rw [encode_int, encodeInteger_of_holds ht (fits_int64 n) h]
    rfl
  refused h := by
    refine ⟨if n.toInt < 0 then .tooSmall else .tooLarge, ?_⟩
    rw [encode_int, encodeInteger_of_not_holds ht (fits_int64 n) h]
    rfl

/-- Eight bytes are written, whatever the number, and four would be read. -/
theorem oid_unread (n : Int64) : ∃ field, (Value.int n).encode (.scalar .oid) = .ok field ∧
    decodeField (.scalar .oid) field = .error .malformed := by
  refine ⟨some (encodeInt 8 n.toInt), by rw [encode_int]; rfl, ?_⟩
  have hlength : (encodeInt 8 n.toInt).length ≠ 4 := by simp
  rw [decodeField_integer (by decide), decodeScalar?, decodeNat?, if_neg hlength]
  rfl

/-- **An integer comes back from every type with a sign, and from no other.** As the number of an
object it is written in range and out of range, and what is written is not read back. -/
theorem integer_kept_iff (ht : t ∈ ScalarType.integers) (n : Int64) :
    (t.Keeps n ↔ t ≠ .oid) ∧
      (t = .oid → ∃ field, (Value.int n).encode (.scalar t) = .ok field ∧
        decodeField (.scalar t) field = .error .malformed) := by
  refine ⟨⟨?_, fun hne => ?_⟩, ?_⟩
  · rintro ⟨hkept, hrefused⟩ rfl
    obtain ⟨field, hwritten, hunread⟩ := oid_unread n
    -- in range the number does not come back, out of range it is not refused
    by_cases h : ScalarType.oid.Holds n.toInt
    · obtain ⟨other, hother, hread⟩ := hkept h
      obtain rfl : field = other := Except.ok.inj (hwritten.symm.trans hother)
      exact absurd (hunread.symm.trans hread) nofun
    · obtain ⟨e, herror⟩ := hrefused h
      exact absurd (hwritten.symm.trans herror) nofun
  · exact keeps_of_signed ((ScalarType.signed_or_oid ht).resolve_right hne) n
  · rintro rfl
    exact oid_unread n

/-- The least number that four bytes hold. -/
theorem integer_kept_int4 :
    ScalarType.int4 ∈ ScalarType.integers ∧ ScalarType.int4.Holds (-2147483648) ∧
      ScalarType.int4.Keeps (-2147483648) :=
  ⟨by decide, by decide, (integer_kept_iff (by decide) _).1.mpr nofun⟩

/-- The number of an object that is in range and is not kept. -/
theorem object_number_not_kept : ScalarType.oid.Holds 7 ∧ ¬ScalarType.oid.Keeps 7 := by
  refine ⟨by decide, fun hkeeps => ?_⟩
  obtain ⟨field, hwritten, hread⟩ := hkeeps.kept (by decide)
  rw [encode_int] at hwritten
  cases hwritten
  cases hread

/-! ## A double -/

/-- The end of the range of 64 bits on the side of a number. -/
def rangeEnd (n : Int) : Int64 := if n < 0 then Int64.minValue else Int64.maxValue

theorem encode_float (ht : t ∈ ScalarType.signedIntegers) (x : Binary64) :
    (Value.float x).encode (.scalar t) =
      if x.isWhole then (Value.encodeInteger (.scalar t) x.toInt64Saturating.toInt).map some
      else .error (.notWhole x) := by
  rcases ScalarType.cases_signed ht with rfl | rfl | rfl <;>
    rw [Value.encode, Value.encodeFloat] <;> split <;> rfl

theorem encode_float_of_isExactly (ht : t ∈ ScalarType.signedIntegers) (h : x.IsExactly n) :
    (Value.float x).encode (.scalar t) =
      (Value.encodeInteger (.scalar t) x.toInt64Saturating.toInt).map some := by
  rw [encode_float ht, if_pos (Binary64.isWhole_iff.mpr ⟨n, h⟩)]

theorem encode_float_of_fraction (ht : t ∈ ScalarType.signedIntegers)
    (h : ¬∃ n, x.IsExactly n) : (Value.float x).encode (.scalar t) = .error (.notWhole x) := by
  rw [encode_float ht, if_neg (Binary64.isWhole_iff.not.mpr h)]

/-- What a type of integers owes a double: it is written exactly if it is an integer in range, and
then what is written is that integer. -/
def Wire.ScalarType.KeepsDouble (t : ScalarType) (x : Binary64) : Prop :=
  ∀ field, (Value.float x).encode (.scalar t) = .ok field ↔
    ∃ n : Int64, x.IsExactly n.toInt ∧ t.Holds n.toInt ∧
      field = some (encodeInt t.integerWidth n.toInt) ∧ decodeField (.scalar t) field = .ok (.int n)

/-- An integer beyond 64 bits, for the only type whose range does not end before. -/
structure Wire.ScalarType.Cuts (t : ScalarType) (x : Binary64) (n : Int) : Prop where
  widest : t = .int8
  exact : x.IsExactly n
  beyond : ¬Fits 8 n

theorem saturated_of_fits (h : x.IsExactly n) (hn : Fits 8 n) :
    x.toInt64Saturating.toInt = n := by
  simp only [Fits] at hn
  rw [Binary64.toInt_toInt64Saturating h]
  omega

theorem saturated_of_beyond (h : x.IsExactly n) (hn : ¬Fits 8 n) :
    x.toInt64Saturating = rangeEnd n := by
  have hmin : Int64.minValue.toInt = -2 ^ 63 := rfl
  have hmax : Int64.maxValue.toInt = 2 ^ 63 - 1 := rfl
  simp only [Fits] at hn
  rw [← Int64.toInt_inj, Binary64.toInt_toInt64Saturating h, rangeEnd]
  split <;> omega

theorem not_holds_rangeEnd (ht : t ∈ ScalarType.signedIntegers) (hne : t ≠ .int8) :
    ¬t.Holds (rangeEnd n).toInt := by
  rw [rangeEnd]
  rcases ScalarType.cases_signed ht with rfl | rfl | rfl
  · split <;> decide
  · split <;> decide
  · exact absurd rfl hne

theorem keepsDouble_of_fraction (ht : t ∈ ScalarType.signedIntegers)
    (h : ¬∃ n, x.IsExactly n) : t.KeepsDouble x := by
  intro field
  rw [encode_float_of_fraction ht h]
  exact ⟨nofun, fun ⟨n, hn, _⟩ => absurd ⟨n.toInt, hn⟩ h⟩

theorem keepsDouble_of_fits (ht : t ∈ ScalarType.signedIntegers) (h : x.IsExactly n)
    (hn : Fits 8 n) : t.KeepsDouble x := by
  intro field
  have hsame := saturated_of_fits h hn
  rw [encode_float_of_isExactly ht h, hsame]
  -- the only integer that the double is decides both directions
  by_cases hholds : t.Holds n
  · rw [encodeInteger_of_holds ht hn hholds]
    constructor
    · intro hfield
      obtain rfl : some (encodeInt t.integerWidth n) = field := Except.ok.inj hfield
      refine ⟨x.toInt64Saturating, ?_⟩
      have hback := decodeField_encodeInt ht (n := x.toInt64Saturating) (by rwa [hsame])
      rw [hsame] at hback ⊢
      exact ⟨h, hholds, rfl, hback⟩
    · rintro ⟨m, hm, -, rfl, -⟩
      rw [Binary64.isExactly_unique hm h]
      rfl
  · rw [encodeInteger_of_not_holds ht hn hholds]
    refine ⟨nofun, ?_⟩
    rintro ⟨m, hm, hm_holds, -, -⟩
    rw [Binary64.isExactly_unique hm h] at hm_holds
    exact absurd hm_holds hholds

/-- The two narrower types refuse what is beyond 64 bits. -/
theorem keepsDouble_of_beyond (ht : t ∈ ScalarType.signedIntegers) (hne : t ≠ .int8)
    (h : x.IsExactly n) (hn : ¬Fits 8 n) : t.KeepsDouble x := by
  intro field
  rw [encode_float_of_isExactly ht h, saturated_of_beyond h hn,
    encodeInteger_of_not_holds ht (fits_int64 _) (not_holds_rangeEnd ht hne)]
  refine ⟨nofun, ?_⟩
  rintro ⟨m, hm, -, -, -⟩
  rw [← Binary64.isExactly_unique hm h] at hn
  exact absurd (fits_int64 m) hn

theorem encode_of_cuts (h : t.Cuts x n) :
    (Value.float x).encode (.scalar t) = .ok (some (encodeInt 8 (rangeEnd n).toInt)) := by
  obtain ⟨rfl, hexact, hbeyond⟩ := h
  rw [encode_float_of_isExactly (by decide) hexact, saturated_of_beyond hexact hbeyond]
  rfl

/-- **A double is written as the integer that it is, or not at all**, except for the integers beyond
64 bits at the widest type. These are written as the end of the range. -/
theorem double_kept_iff (ht : t ∈ ScalarType.signedIntegers) (x : Binary64) :
    (t.KeepsDouble x ↔ ∀ n, ¬t.Cuts x n) ∧
      ∀ n, t.Cuts x n →
        (Value.float x).encode (.scalar t) = .ok (some (encodeInt 8 (rangeEnd n).toInt)) := by
  refine ⟨⟨fun hkeeps n hcuts => ?_, fun hnone => ?_⟩, fun n => encode_of_cuts⟩
  · -- what is cut is written, and no integer in range is what the double is
    obtain ⟨m, hm, -, -, -⟩ := (hkeeps _).mp (encode_of_cuts hcuts)
    rw [← Binary64.isExactly_unique hm hcuts.exact] at hcuts
    exact hcuts.beyond (fits_int64 m)
  · by_cases hwhole : ∃ n, x.IsExactly n
    · obtain ⟨n, hn⟩ := hwhole
      by_cases hfits : Fits 8 n
      · exact keepsDouble_of_fits ht hn hfits
      · exact keepsDouble_of_beyond ht (fun hint8 => hnone n ⟨hint8, hn, hfits⟩) hn hfits
    · exact keepsDouble_of_fraction ht hwhole

/-- The double minus two, at two bytes. -/
theorem double_kept_minus_two :
    ScalarType.int2 ∈ ScalarType.signedIntegers ∧
      (⟨0xC000000000000000⟩ : Binary64).IsExactly (-2) ∧
      ScalarType.int2.KeepsDouble ⟨0xC000000000000000⟩ :=
  ⟨by decide, by decide +kernel,
    (double_kept_iff (by decide) _).1.mpr fun _ hcuts => absurd hcuts.widest nofun⟩

/-- The double 2^63 is written as the integer before it. -/
theorem double_cut_at_range_end :
    (⟨0x43E0000000000000⟩ : Binary64).IsExactly (2 ^ 63) ∧
      ¬ScalarType.int8.KeepsDouble ⟨0x43E0000000000000⟩ := by
  have hexact : (⟨0x43E0000000000000⟩ : Binary64).IsExactly (2 ^ 63) := by decide +kernel
  have hcuts : ScalarType.int8.Cuts ⟨0x43E0000000000000⟩ (2 ^ 63) := ⟨rfl, hexact, by decide⟩
  refine ⟨hexact, fun hkeeps => ?_⟩
  obtain ⟨m, hm, -, -, -⟩ := (hkeeps _).mp (encode_of_cuts hcuts)
  have htoo : m.toInt = 2 ^ 63 := Binary64.isExactly_unique hm hexact
  have hbelow := m.toInt_lt
  omega

end EntityMapper
