import EntityMapper.Proofs.WireFormat

/-!
# What is stored can be fetched

A value is written by its kind, and read by the type of its column. For each type there is one kind
of value that the two agree on: written as a parameter of the type and read as a field of it, it
comes back as it was, doubles to the bit. NULL comes back from every type, and from every place in
an array.

The exception is length. An array of more than `maxLength` items, or with a text of more bytes, has
no bytes at all: it is refused, and never cut.
-/

namespace EntityMapper

open Calendar Number Wire

/-! ## Points in time

The database keeps whole microseconds, on any day that timestamps have. -/

namespace Calendar.Timestamp

/-- A point in time that a count of microseconds holds: in no leap second, on a whole microsecond
and on a day that timestamps can have. -/
structure IsExact (t : Timestamp) : Prop where
  firstDay_le : firstDay ≤ t.day
  le_lastDay : t.day ≤ lastDay
  second_lt : t.second < secondsPerDay
  nano_lt : t.nano < nanosPerSecond
  onMicro : t.nano % 1000 = 0

instance (t : Timestamp) : Decidable t.IsExact :=
  decidable_of_iff (firstDay ≤ t.day ∧ t.day ≤ lastDay ∧ t.second < secondsPerDay ∧
      t.nano < nanosPerSecond ∧ t.nano % 1000 = 0)
    ⟨fun ⟨hfirst, hlast, hsecond, hnano, hmicro⟩ => ⟨hfirst, hlast, hsecond, hnano, hmicro⟩,
      fun ⟨hfirst, hlast, hsecond, hnano, hmicro⟩ => ⟨hfirst, hlast, hsecond, hnano, hmicro⟩⟩

/-- Whole days since the year 2000 began, and what is left of the last one. -/
theorem toMicros_eq {t : Timestamp} (h : t.IsExact) :
    t.toMicros = (t.day - databaseEpoch) * microsPerDay +
      (t.second * microsPerSecond + t.nano / 1000 : Nat) := by
  have hmicro := h.onMicro
  simp only [toMicros, secondsPerDay, nanosPerSecond, microsPerDay, microsPerSecond]
  have hthousand :
      ((t.day - databaseEpoch) * (86400 : Nat) + t.second) * (1000000000 : Nat) + t.nano =
        1000 * ((t.day - databaseEpoch) * 86400000000 +
          (t.second * 1000000 + t.nano / 1000 : Nat)) := by
    omega
  rw [hthousand, Int.mul_tdiv_cancel_left _ (by decide)]

theorem ofMicros?_toMicros {t : Timestamp} (h : t.IsExact) : ofMicros? t.toMicros = some t := by
  obtain ⟨hfirst, hlast, hsecond, hnano, hmicro⟩ := h
  have hcount := toMicros_eq ⟨hfirst, hlast, hsecond, hnano, hmicro⟩
  have hrest : t.second * microsPerSecond + t.nano / 1000 < 86400000000 := by
    simp only [secondsPerDay, nanosPerSecond, microsPerSecond] at *
    omega
  have hday : t.toMicros / microsPerDay = t.day - databaseEpoch := by
    simp only [microsPerDay] at *
    omega
  have hleft : (t.toMicros % microsPerDay).toNat = t.second * microsPerSecond + t.nano / 1000 := by
    simp only [microsPerDay] at *
    omega
  have hsame : databaseEpoch + (t.day - databaseEpoch) = t.day := by omega
  simp only [ofMicros?, hday, hleft, hsame, if_pos (And.intro hfirst hlast)]
  simp only [secondsPerDay, nanosPerSecond, microsPerSecond] at *
  congr 2 <;> omega

-- a leap second is counted as the second after it
example : ofMicros? (mk 17166 86399 1500000000).toMicros = some ⟨17167, 0, 500000000⟩ := by decide

theorem fits_toMicros {t : Timestamp} (h : t.IsExact) : Fits 8 t.toMicros := by
  have hcount := toMicros_eq h
  obtain ⟨hfirst, hlast, hsecond, hnano, hmicro⟩ := h
  have hlower : firstDay = -96465292 := by decide
  have hupper : lastDay = 95026236 := by decide
  simp only [Fits, secondsPerDay, nanosPerSecond, microsPerSecond, microsPerDay, databaseEpoch] at *
  omega

end Calendar.Timestamp

/-! ## Values of one type -/

namespace Wire.ScalarType

/-- The types whose values come back; names only outside arrays. -/
def stored : List ScalarType := [.bool, .int2, .int4, .int8, .float8, .text, .varchar, .bpchar,
  .name, .uuid, .timestamp, .timestamptz]

/-- `t.Stores v`: the value is of the kind that the type is for, and the type holds it exactly. -/
inductive Stores : ScalarType → Value → Prop
  | bool (b : Bool) : Stores .bool (.bool b)
  | int2 {n : Int64} : Fits 2 n.toInt → Stores .int2 (.int n)
  | int4 {n : Int64} : Fits 4 n.toInt → Stores .int4 (.int n)
  | int8 (n : Int64) : Stores .int8 (.int n)
  | float8 (x : Binary64) : Stores .float8 (.float x)
  | text {t : ScalarType} (s : String) : t ∈ [.text, .varchar, .bpchar, .name] → Stores t (.text s)
  | uuid (u : Uuid) : Stores .uuid (.uuid u)
  | timestamp {t : Timestamp} : t.IsExact → Stores .timestamp (.timestamp t)
  | timestamptz {t : Timestamp} : t.IsExact → Stores .timestamptz (.timestampTz t)

end Wire.ScalarType

variable {t : ScalarType} {v : Value}

theorem decodeTimestamp?_toMicros {t : Timestamp} (h : t.IsExact) :
    decodeTimestamp? (encodeInt 8 t.toMicros) = some t := by
  rw [decodeTimestamp?, decodeInt?_encodeInt (Timestamp.fits_toMicros h), Option.bind_some,
    Timestamp.ofMicros?_toMicros h]

/-- The bytes of a text or of a byte string. Other values that are stored have a fixed width. -/
def Value.content? : Value → Option (List UInt8)
  | .text s => some (encodeText s)
  | .bytes b => some b
  | _ => none

/-- Whether the lengths within a value fit the bytes they are sent in. Only arrays have any. -/
def Value.IsTransmissible : Value → Prop
  | .array items => items.length ≤ maxLength ∧ ∀ v ∈ items, Wire.IsShort v.content?
  | _ => True

theorem isShort_iff_of_fixed {content : List UInt8} (hlength : content.length ≤ 16)
    (hv : v.content? = none) : Wire.IsShort (some content) ↔ Wire.IsShort v.content? := by
  have hmax : 16 ≤ Value.maxLength := by decide
  refine iff_of_true (fun _ h => ?_) (fun _ h => ?_)
  · cases h
    exact hlength.trans hmax
  · rw [hv] at h
    cases h

theorem Wire.ScalarType.Stores.reads_back (h : t.Stores v) :
    ∃ content, v.encode (.scalar t) = .ok (some content) ∧ decodeScalar? t content = some v ∧
      (Wire.IsShort (some content) ↔ Wire.IsShort v.content?) := by
  cases h with
  | bool b =>
    refine ⟨[if b then 1 else 0], by rw [Value.encode], ?_, isShort_iff_of_fixed ?_ rfl⟩
    · cases b <;> rfl
    · simp
  | @int2 n hfits =>
    refine ⟨encodeInt 2 n.toInt, ?_, ?_, isShort_iff_of_fixed (by simp) rfl⟩
    · rw [Value.encode, Value.encodeInteger, encodeNarrow_of_fits hfits]; rfl
    · rw [decodeScalar?, decodeInt?_encodeInt hfits, Option.map_some, Int64.ofInt_toInt]
  | @int4 n hfits =>
    refine ⟨encodeInt 4 n.toInt, ?_, ?_, isShort_iff_of_fixed (by simp) rfl⟩
    · rw [Value.encode, Value.encodeInteger, encodeNarrow_of_fits hfits]; rfl
    · rw [decodeScalar?, decodeInt?_encodeInt hfits, Option.map_some, Int64.ofInt_toInt]
  | int8 n =>
    refine ⟨encodeInt 8 n.toInt, ?_, ?_, isShort_iff_of_fixed (by simp) rfl⟩
    · rw [Value.encode]; rfl
    · rw [decodeScalar?, decodeInt?_encodeInt (fits_int64 n), Option.map_some, Int64.ofInt_toInt]
  | float8 x =>
    have hbits : x.bits.toNat < 256 ^ 8 := x.bits.toNat_lt
    refine ⟨Value.encodeDouble x, ?_, ?_, isShort_iff_of_fixed ?_ rfl⟩
    · rw [Value.encode]; rfl
    · rw [decodeScalar?, Value.encodeDouble, decodeNat?_bigEndian hbits, Option.map_some,
        UInt64.ofNat_toNat]
    · simp [Value.encodeDouble]
  | text s ht =>
    refine ⟨encodeText s, by rw [Value.encode], ?_, Iff.rfl⟩
    simp only [List.mem_cons, List.not_mem_nil, or_false] at ht
    rcases ht with rfl | rfl | rfl | rfl <;> simp [decodeScalar?, decodeText?_encodeText]
  | uuid u =>
    have hlength : u.bytes.length ≤ 16 := Nat.le_of_eq u.length_bytes
    refine ⟨u.bytes, by rw [Value.encode], ?_, isShort_iff_of_fixed hlength rfl⟩
    rw [decodeScalar?, Uuid.ofBytes?, dif_pos u.length_bytes, Option.map_some]
  | @timestamp t ht =>
    refine ⟨encodeInt 8 t.toMicros, by rw [Value.encode], ?_,
      isShort_iff_of_fixed (by simp) rfl⟩
    rw [decodeScalar?, decodeTimestamp?_toMicros ht, Option.map_some]
  | @timestamptz t ht =>
    refine ⟨encodeInt 8 t.toMicros, by rw [Value.encode], ?_,
      isShort_iff_of_fixed (by simp) rfl⟩
    rw [decodeScalar?, decodeTimestamp?_toMicros ht, Option.map_some]

/-! ## Items and fields -/

theorem field_reads_back (h : v = .null ∨ t.Stores v) :
    ∃ field, v.encode (.scalar t) = .ok field ∧ decodeNullable? t field = some v ∧
      (Wire.IsShort field ↔ Wire.IsShort v.content?) := by
  rcases h with rfl | h
  · exact ⟨none, by rw [Value.encode], rfl, Iff.rfl⟩
  · obtain ⟨content, hencode, hdecode, hshort⟩ := h.reads_back
    exact ⟨some content, hencode, hdecode, hshort⟩

theorem items_read_back {items : List Value} (h : ∀ v ∈ items, v = .null ∨ t.Stores v) :
    ∃ fields, Encodes (.scalar t) items fields ∧ fields.mapM (decodeNullable? t) = some items ∧
      ((∀ field ∈ fields, Wire.IsShort field) ↔ ∀ v ∈ items, Wire.IsShort v.content?) := by
  induction items with
  | nil => exact ⟨[], .nil, rfl, by simp⟩
  | cons v items ih =>
    obtain ⟨field, hencode, hdecode, hfield⟩ := field_reads_back (h v (by simp))
    obtain ⟨fields, hfields, hread, hall⟩ := ih fun w hw => h w (by simp [hw])
    refine ⟨field :: fields, .cons hencode hfields, ?_, ?_⟩
    · simp [List.mapM_cons, hdecode, hread]
    · rw [List.forall_mem_cons, List.forall_mem_cons, hfield, hall]

/-! ## Every type that is read back -/

/-- `type.Stores v`: the value is NULL or of the kind that the type is for. An array holds values of
the type of its items and NULLs. -/
inductive Wire.PgType.Stores : PgType → Value → Prop
  | scalar {t : ScalarType} {v : Value} :
      t ∈ ScalarType.stored → v = .null ∨ t.Stores v → Stores (.scalar t) v
  | nullArray {t : ScalarType} :
      t ∈ ScalarType.stored → t ≠ .name → Stores (.array (.scalar t)) .null
  | array {t : ScalarType} {items : List Value} :
      t ∈ ScalarType.stored → t ≠ .name → (∀ v ∈ items, v = .null ∨ t.Stores v) →
      Stores (.array (.scalar t)) (.array items)

theorem Wire.ScalarType.isReadable_of_stored : ∀ t ∈ stored, t.isReadable = true := by decide

theorem Wire.ScalarType.isReadableItem_of_stored :
    ∀ t ∈ stored, t ≠ .name → t.isReadableItem = true := by decide

theorem array_reads_back {items : List Value} (h : ∀ v ∈ items, v = .null ∨ t.Stores v)
    (htransmissible : (Value.array items).IsTransmissible) :
    ∃ content, (Value.array items).encode (.array (.scalar t)) = .ok (some content) ∧
      decodeArray? t content = some (.array items) := by
  obtain ⟨hlength, hshort⟩ := htransmissible
  obtain ⟨fields, hfields, hread, hall⟩ := items_read_back h
  have hsame : items.length = fields.length := hfields.length_eq
  exact ⟨_, encode_array_eq_ok hfields hlength (hall.mpr hshort),
    decodeArray?_arrayBytes _ _ hread (by omega) (hall.mpr hshort)⟩

/-- **What a type stores, it gives back.** A value that can be sent is written as a parameter of the
type, and reading these bytes as a field of the type gives the value; one with a length that cannot
be sent is refused. -/
theorem stored_value_reads_back {type : PgType} {v : Value} (h : type.Stores v) :
    (v.IsTransmissible →
        ∃ field, v.encode type = .ok field ∧ decodeField type field = .ok v) ∧
      (¬v.IsTransmissible → v.encode type = .error .tooLong) := by
  cases h with
  | @scalar t v ht hv =>
    obtain ⟨field, hencode, hdecode, -⟩ := field_reads_back hv
    have hfield : decodeField (.scalar t) field = .ok v := by
      rw [decodeField, if_pos (ScalarType.isReadable_of_stored t ht), hdecode]
      rfl
    have htransmissible : v.IsTransmissible := by
      rcases hv with rfl | hv
      · trivial
      · cases hv <;> trivial
    exact ⟨fun _ => ⟨field, hencode, hfield⟩, fun hnot => absurd htransmissible hnot⟩
  | @nullArray t ht hname =>
    have hfield : decodeField (.array (.scalar t)) none = .ok .null := by
      rw [decodeField, if_pos (ScalarType.isReadableItem_of_stored t ht hname)]
    exact ⟨fun _ => ⟨none, by rw [Value.encode], hfield⟩, fun hnot => absurd trivial hnot⟩
  | @array t items ht hname hitems =>
    refine ⟨fun htransmissible => ?_, fun hnot => ?_⟩
    · obtain ⟨content, hencode, hdecode⟩ := array_reads_back hitems htransmissible
      refine ⟨some content, hencode, ?_⟩
      rw [decodeField, if_pos (ScalarType.isReadableItem_of_stored t ht hname)]
      simp only [hdecode]
      rfl
    · obtain ⟨fields, hfields, -, hall⟩ := items_read_back hitems
      refine encode_array_eq_tooLong hfields ?_
      rintro ⟨hlength, hshort⟩
      exact hnot ⟨hlength, hall.mp hshort⟩

/-- An array with NULL between two numbers. -/
theorem stored_value_reads_back_gap :
    (PgType.array (.scalar .int4)).Stores (.array [.int 3, .null, .int (-7)]) ∧
      (Value.array [.int 3, .null, .int (-7)]).IsTransmissible ∧
      ∃ field,
        (Value.array [.int 3, .null, .int (-7)]).encode (.array (.scalar .int4)) = .ok field ∧
        decodeField (.array (.scalar .int4)) field = .ok (.array [.int 3, .null, .int (-7)]) := by
  have hitems : ∀ v ∈ [Value.int 3, .null, .int (-7)], v = .null ∨ ScalarType.int4.Stores v := by
    intro v hv
    simp only [List.mem_cons, List.not_mem_nil, or_false] at hv
    rcases hv with rfl | rfl | rfl
    · exact .inr (.int4 (by decide))
    · exact .inl rfl
    · exact .inr (.int4 (by decide))
  have hstores : (PgType.array (.scalar .int4)).Stores (.array [.int 3, .null, .int (-7)]) :=
    .array (by decide) (by decide) hitems
  have hsent : (Value.array [.int 3, .null, .int (-7)]).IsTransmissible :=
    ⟨by decide, by simp [Value.content?, Wire.IsShort]⟩
  exact ⟨hstores, hsent, (stored_value_reads_back hstores).1 hsent⟩

theorem utf8ByteSize_replicate (n : Nat) :
    (String.ofList (List.replicate n 'a')).utf8ByteSize = n := by
  induction n with
  | zero => rfl
  | succ n ih =>
    rw [List.replicate_succ', String.ofList_append, String.utf8ByteSize_append, ih]
    rfl

/-- Two arrays that their types store and that are refused: one has too many items, and the other
one item of too many bytes. -/
theorem long_arrays_refused :
    let nulls : Value := .array (List.replicate (2 ^ 31) .null)
    let letters : Value := .array [.text (String.ofList (List.replicate (2 ^ 31) 'a'))]
    (PgType.array (.scalar .int4)).Stores nulls ∧
      nulls.encode (.array (.scalar .int4)) = .error .tooLong ∧
      (PgType.array (.scalar .text)).Stores letters ∧
      letters.encode (.array (.scalar .text)) = .error .tooLong := by
  -- the length is not to be counted out
  have hlong : Value.maxLength < 2 ^ 31 := by decide
  generalize 2 ^ 31 = n at hlong
  intro nulls letters
  have hnulls : ∀ v ∈ List.replicate n Value.null, v = .null ∨ ScalarType.int4.Stores v :=
    fun v hv => .inl (List.eq_of_mem_replicate hv)
  have hletters : ∀ v ∈ [Value.text (String.ofList (List.replicate n 'a'))],
      v = .null ∨ ScalarType.text.Stores v := by
    intro v hv
    rw [List.mem_singleton.mp hv]
    exact .inr (.text _ (by decide))
  refine ⟨.array (by decide) (by decide) hnulls, ?_, .array (by decide) (by decide) hletters, ?_⟩
  · obtain ⟨fields, hfields, -, -⟩ := items_read_back hnulls
    refine encode_array_eq_tooLong hfields fun hfits => ?_
    have hlength := hfits.1
    rw [List.length_replicate] at hlength
    omega
  · obtain ⟨fields, hfields, -, hall⟩ := items_read_back hletters
    refine encode_array_eq_tooLong hfields fun hfits => ?_
    have hshort := hall.mp hfits.2 _ (List.mem_singleton.mpr rfl) _ rfl
    rw [length_encodeText, utf8ByteSize_replicate] at hshort
    omega

end EntityMapper
