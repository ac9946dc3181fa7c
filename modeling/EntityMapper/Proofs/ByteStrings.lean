import EntityMapper.Column.Basic
import EntityMapper.Proofs.ReadBack

/-!
# Byte strings

A byte string is its own encoding, so a column of byte strings gives back what it stores. A column
of arrays of them stores them as well, and what it stores is the array. But the type of these arrays
is not among those that fields are read at, so nothing of such a column is ever fetched, not even
NULL.
-/

namespace EntityMapper

open Wire

/-- The type in the database of a column of byte strings. -/
def Column.bytesType (c : Column) : PgType :=
  if c.isArray then .array (.scalar .bytea) else .scalar .bytea

variable {c : Column} {v : Value} {items : List Value}

theorem accepts_bytes_iff : NativeType.bytes.accepts v = true ↔ v = .null ∨ ∃ b, v = .bytes b := by
  cases v <;> simp [NativeType.accepts]

/-! ## One byte string -/

theorem encode_bytes (type : PgType) (h : NativeType.bytes.accepts v = true) :
    v.encode type = .ok v.content? := by
  rcases accepts_bytes_iff.mp h with rfl | ⟨b, rfl⟩ <;> rw [Value.encode] <;> rfl

theorem decodeNullable?_bytes (h : NativeType.bytes.accepts v = true) :
    decodeNullable? .bytea v.content? = some v := by
  rcases accepts_bytes_iff.mp h with rfl | ⟨b, rfl⟩ <;> rfl

theorem decodeField_bytes (h : NativeType.bytes.accepts v = true) :
    decodeField (.scalar .bytea) v.content? = .ok v := by
  have hreadable : ScalarType.bytea.isReadable = true := rfl
  rw [decodeField, if_pos hreadable, decodeNullable?_bytes h]
  rfl

/-! ## Arrays of byte strings -/

theorem encodes_bytes (type : PgType)
    (h : ∀ w ∈ items, NativeType.bytes.accepts w = true) :
    Encodes type items (items.map Value.content?) := by
  rw [Encodes, List.forall₂_map_right_iff, List.forall₂_same]
  exact fun w hw => encode_bytes type (h w hw)

theorem mapM_decodeNullable?_bytes (h : ∀ w ∈ items, NativeType.bytes.accepts w = true) :
    (items.map Value.content?).mapM (decodeNullable? .bytea) = some items := by
  induction items with
  | nil => rfl
  | cons w items ih =>
    obtain ⟨hw, hrest⟩ := List.forall_mem_cons.mp h
    simp [List.mapM_cons, decodeNullable?_bytes hw, ih hrest]

theorem isShort_items : (∀ field ∈ items.map Value.content?, Wire.IsShort field) ↔
    ∀ w ∈ items, Wire.IsShort w.content? := by
  rw [List.forall_mem_map]

/-- The bytes of an array of byte strings, in the order of the items. -/
theorem array_of_bytes_written (h : ∀ w ∈ items, NativeType.bytes.accepts w = true)
    (hfits : (Value.array items).IsTransmissible) :
    ∃ content, (Value.array items).encode (.array (.scalar .bytea)) = .ok (some content) ∧
      decodeArray? .bytea content = some (.array items) := by
  obtain ⟨hlength, hshort⟩ := hfits
  have hfields := isShort_items.mpr hshort
  exact ⟨_, encode_array_eq_ok (encodes_bytes _ h) hlength hfields,
    decodeArray?_arrayBytes _ _ (mapM_decodeNullable?_bytes h) (by simpa using hlength) hfields⟩

theorem decodeField_arrayOfBytes (field : Option (List UInt8)) :
    decodeField (.array (.scalar .bytea)) field =
      .error (.unsupported (.array (.scalar .bytea))) := rfl

/-! ## Columns of byte strings -/

theorem bytes_of_single (hc : c.native = .bytes) (hv : c.type.accepts v = true)
    (hsingle : c.isArray = false) : NativeType.bytes.accepts v = true := by
  rw [ColumnType.accepts_single hsingle] at hv
  exact hc ▸ hv

theorem bytes_of_several (hc : c.native = .bytes) (hv : c.type.accepts v = true)
    (hseveral : c.isArray = true) :
    v = .null ∨ ∃ items, v = .array items ∧ ∀ w ∈ items, NativeType.bytes.accepts w = true := by
  have hitems := (ColumnType.accepts_several hseveral v).mp hv
  exact hc ▸ hitems

/-- **Byte strings are fetched, arrays of them never.** A column of byte strings writes what it
accepts, and gives it back if it holds single ones. If it holds arrays, the bytes that it writes are
those of the array, as far as its lengths can be sent, and no field of it is read. -/
theorem byte_strings_fetched (hc : c.native = .bytes) (hv : c.type.accepts v = true) :
    (c.isArray = false →
      ∃ field, v.encode c.bytesType = .ok field ∧ decodeField c.bytesType field = .ok v) ∧
    (c.isArray = true →
      (v.IsTransmissible → ∃ field, v.encode c.bytesType = .ok field ∧
        ∀ content ∈ field, decodeArray? .bytea content = some v) ∧
      (¬v.IsTransmissible → v.encode c.bytesType = .error .tooLong) ∧
      ∀ field, decodeField c.bytesType field = .error (.unsupported c.bytesType)) := by
  refine ⟨fun hsingle => ?_, fun hseveral => ?_⟩
  · have hbytes := bytes_of_single hc hv hsingle
    rw [Column.bytesType, hsingle]
    exact ⟨v.content?, encode_bytes _ hbytes, decodeField_bytes hbytes⟩
  · rw [Column.bytesType, hseveral, if_pos rfl]
    refine ⟨fun hfits => ?_, fun hlong => ?_, decodeField_arrayOfBytes⟩
    · rcases bytes_of_several hc hv hseveral with rfl | ⟨items, rfl, hitems⟩
      · refine ⟨none, by rw [Value.encode], ?_⟩
        intro content hcontent
        cases hcontent
      · obtain ⟨content, hwritten, hread⟩ := array_of_bytes_written hitems hfits
        refine ⟨some content, hwritten, ?_⟩
        rintro _ ⟨⟩
        exact hread
    · rcases bytes_of_several hc hv hseveral with rfl | ⟨items, rfl, hitems⟩
      · exact absurd trivial hlong
      · refine encode_array_eq_tooLong (encodes_bytes _ hitems) ?_
        rintro ⟨hlength, hfields⟩
        exact hlong ⟨hlength, isShort_items.mp hfields⟩

/-- One byte string, and an array of two places. -/
theorem byte_strings_fetched_files :
    let files : Value := .array [.bytes [1, 255], .null]
    (Column.bytea.type.accepts (.bytes [0, 255]) = true ∧
      ∃ field, (Value.bytes [0, 255]).encode (.scalar .bytea) = .ok field ∧
        decodeField (.scalar .bytea) field = .ok (.bytes [0, 255])) ∧
      Column.bytea.asArray.type.accepts files = true ∧ files.IsTransmissible ∧
      ∃ field, files.encode (.array (.scalar .bytea)) = .ok field ∧
        ∀ content ∈ field, decodeArray? .bytea content = some files := by
  intro files
  have hfits : files.IsTransmissible :=
    ⟨by decide, by simp [Value.content?, Wire.IsShort, Value.maxLength]⟩
  exact ⟨⟨rfl, (byte_strings_fetched (c := .bytea) rfl rfl).1 rfl⟩, rfl, hfits,
    ((byte_strings_fetched (c := Column.bytea.asArray) rfl rfl).2 rfl).1 hfits⟩

/-- An array that a column accepts and that no field gives back. -/
theorem array_of_bytes_not_fetched :
    let files : Value := .array [.bytes [1, 255], .null]
    Column.bytea.asArray.type.accepts files = true ∧
      ∀ field, decodeField (.array (.scalar .bytea)) field ≠ .ok files :=
  ⟨rfl, fun _ => nofun⟩

end EntityMapper
