import EntityMapper.Wire.Decode
import EntityMapper.Wire.Encode
import Mathlib.Data.List.Forall2
import Mathlib.Tactic.Ring

/-!
# Bytes that read back

What writes bytes and what reads them are different functions, driven by different things. Each pair
is compared here once: numbers, texts, and arrays of items whose own bytes are left open.

A number takes a fixed width, so a reader knows where it ends and the bytes after it are handed on.
An array begins with five of them. The lengths in it are signed, which is why an array of more than
`maxLength` items, or an item of more bytes, is never written.
-/

namespace EntityMapper.Wire

/-! ## Numbers -/

@[simp]
theorem length_bigEndian (width n : Nat) : (bigEndian width n).length = width := by
  induction width with
  | zero => rfl
  | succ width ih => simp [bigEndian, ih]

@[simp]
theorem length_encodeInt (width : Nat) (n : Int) : (encodeInt width n).length = width :=
  length_bigEndian width _

private theorem foldl_bytes (bytes : List UInt8) (start : Nat) :
    bytes.foldl (fun n b => 256 * n + b.toNat) start =
      start * 256 ^ bytes.length + ofBigEndian bytes := by
  induction bytes generalizing start with
  | nil => simp [ofBigEndian]
  | cons b rest ih =>
    have hrest := ih b.toNat
    simp only [ofBigEndian, List.foldl_cons, Nat.mul_zero, Nat.zero_add] at hrest ⊢
    rw [ih, hrest, List.length_cons, Nat.pow_succ]
    simp only [ofBigEndian]
    ring

theorem ofBigEndian_cons (b : UInt8) (rest : List UInt8) :
    ofBigEndian (b :: rest) = b.toNat * 256 ^ rest.length + ofBigEndian rest := by
  have h := foldl_bytes rest b.toNat
  simpa [ofBigEndian] using h

theorem ofBigEndian_bigEndian (width n : Nat) :
    ofBigEndian (bigEndian width n) = n % 256 ^ width := by
  induction width with
  | zero => simp [bigEndian, ofBigEndian, Nat.mod_one]
  | succ width ih =>
    rw [bigEndian, ofBigEndian_cons, length_bigEndian, ih, Nat.pow_succ, Nat.mod_mul]
    have hbyte : (UInt8.ofNat (n / 256 ^ width)).toNat = n / 256 ^ width % 256 := by simp
    rw [hbyte, Nat.mul_comm, Nat.add_comm]

theorem decodeNat?_bigEndian {width n : Nat} (h : n < 256 ^ width) :
    decodeNat? width (bigEndian width n) = some n := by
  rw [decodeNat?, if_pos (length_bigEndian width n), ofBigEndian_bigEndian, Nat.mod_eq_of_lt h]

/-- Whether so many bytes hold a signed number. -/
def Fits (width : Nat) (n : Int) : Prop :=
  -(256 ^ width / 2 : Nat) ≤ n ∧ n < (256 ^ width / 2 : Nat)

instance (width : Nat) (n : Int) : Decidable (Fits width n) :=
  inferInstanceAs (Decidable (_ ∧ _))

theorem fits_length {n : Nat} (h : n ≤ Value.maxLength) : Fits 4 n := by
  simp only [Value.maxLength, Fits] at *
  omega

theorem fits_int64 (n : Int64) : Fits 8 n.toInt := by
  have hlower := n.le_toInt
  have hupper := n.toInt_lt
  simp only [Fits]
  omega

theorem decodeInt?_encodeInt {width : Nat} {n : Int} (h : Fits width n) :
    decodeInt? width (encodeInt width n) = some n := by
  have hpositive : 0 < 256 ^ width := Nat.pow_pos (by decide)
  have hread : signedValue (encodeInt width n) = Int.bmod n (256 ^ width) := by
    have hnonneg : 0 ≤ n % (256 ^ width : Nat) := Int.emod_nonneg _ (by omega)
    have hbelow : n % (256 ^ width : Nat) < (256 ^ width : Nat) := Int.emod_lt_of_pos _ (by omega)
    rw [signedValue, length_encodeInt, encodeInt, ofBigEndian_bigEndian,
      Nat.mod_eq_of_lt (by omega), Int.toNat_of_nonneg hnonneg, Int.emod_bmod]
  obtain ⟨hlower, hupper⟩ := h
  rw [decodeInt?, if_pos (length_encodeInt width n), hread,
    Int.bmod_eq_of_le (by omega) (by omega)]

theorem encodeNarrow_of_fits {width : Nat} {n : Int} (h : Fits width n) :
    Value.encodeNarrow width n = .ok (encodeInt width n) := by
  obtain ⟨hlower, hupper⟩ := h
  rw [Value.encodeNarrow, if_neg (by omega), if_neg (by omega)]

/-! ## Texts -/

theorem decodeText?_encodeText (s : String) : decodeText? (encodeText s) = some s := by
  have hbytes : (⟨(encodeText s).toArray⟩ : ByteArray) = s.toUTF8 := by simp [encodeText]
  rw [decodeText?, hbytes, String.fromUTF8?, String.toUTF8_eq_toByteArray, dif_pos s.isValidUTF8]
  rfl

theorem length_encodeText (s : String) : (encodeText s).length = s.utf8ByteSize := by
  rw [encodeText, Array.length_toList, String.toUTF8_eq_toByteArray, ← String.size_toByteArray]
  rfl

/-! ## Arrays -/

/-- Any four bytes are read as a number, and the bytes after them are left. -/
theorem takeInt32?_append {number : List UInt8} (h : number.length = 4) (rest : List UInt8) :
    takeInt32? (number ++ rest) = some (signedValue number, rest) := by
  rw [takeInt32?, List.take_left' h, List.drop_left' h, decodeInt?, if_pos h]
  rfl

theorem takeInt32?_encodeInt {n : Int} (h : Fits 4 n) (rest : List UInt8) :
    takeInt32? (encodeInt 4 n ++ rest) = some (n, rest) := by
  have hread := decodeInt?_encodeInt h
  rw [decodeInt?, if_pos (length_encodeInt 4 n)] at hread
  rw [takeInt32?_append (length_encodeInt 4 n), Option.some.inj hread]

/-- Whether the bytes of an item can be counted in four bytes. -/
def IsShort (field : Option (List UInt8)) : Prop :=
  ∀ content ∈ field, content.length ≤ Value.maxLength

/-- Items are taken back one by one, each by its own length. -/
theorem takeItems?_itemBytes {items : List (Option (List UInt8))} (h : ∀ item ∈ items, IsShort item)
    (rest : List UInt8) :
    takeItems? items.length (items.flatMap Value.itemBytes ++ rest) = some (items, rest) := by
  induction items with
  | nil => rfl
  | cons item items ih =>
    have hrest := ih fun item hitem => h item (List.mem_cons_of_mem _ hitem)
    rw [List.length_cons, takeItems?, List.flatMap_cons, List.append_assoc]
    generalize items.flatMap Value.itemBytes ++ rest = after at hrest ⊢
    cases item with
    | none =>
      have hnull : Fits 4 (-1) := by simp only [Fits]; omega
      simp [Value.itemBytes, takeInt32?_encodeInt hnull, hrest]
    | some content =>
      have hshort : content.length ≤ Value.maxLength := h (some content) (by simp) content rfl
      have hcount := takeInt32?_encodeInt (fits_length hshort) (content ++ after)
      have hnonneg : ¬(content.length : Int) < 0 := by omega
      have henough : ¬(content ++ after).length < (content.length : Int).toNat := by simp
      rw [Value.itemBytes, List.append_assoc, hcount]
      simp only [Option.bind_eq_bind, Option.bind_some, if_neg hnonneg, if_neg henough]
      simp [hrest]

/-- An array gives its items back, whatever its type says of them. -/
theorem arrayItems?_arrayBytes {items : List (Option (List UInt8))} (type item : PgType)
    (hlength : items.length ≤ Value.maxLength) (h : ∀ item ∈ items, IsShort item) :
    arrayItems? (Value.arrayBytes type item items) = some items := by
  have hone : Fits 4 1 := by simp only [Fits]; omega
  have hnonneg : ¬(items.length : Int) < 0 := by omega
  have htaken := takeItems?_itemBytes h []
  rw [List.append_nil] at htaken
  simp only [Value.arrayBytes, List.append_assoc, arrayItems?, Option.bind_eq_bind]
  rw [takeInt32?_encodeInt hone, Option.bind_some, takeInt32?_append (length_encodeInt 4 _),
    Option.bind_some, takeInt32?_append (length_bigEndian 4 _), Option.bind_some]
  simp only [one_ne_zero, if_false, if_true]
  rw [takeInt32?_encodeInt (fits_length hlength), Option.bind_some,
    takeInt32?_append (length_encodeInt 4 _), Option.bind_some]
  simp only [if_neg hnonneg, Int.toNat_natCast, htaken, Option.bind_some]
  rfl

theorem any_long_eq_false (field : Option (List UInt8)) :
    field.any (Value.maxLength < ·.length) = false ↔ IsShort field := by
  cases field <;> simp [IsShort]

/-- `Encodes type items fields` when each item has its own bytes. -/
def Encodes (type : PgType) (items : List Value) (fields : List (Option (List UInt8))) : Prop :=
  List.Forall₂ (fun v field => v.encode type = .ok field) items fields

theorem encodeItems_eq_ok {type : PgType} {items : List Value} {fields : List (Option (List UInt8))}
    (h : Encodes type items fields) (hshort : ∀ field ∈ fields, IsShort field) :
    Value.encodeItems type items = .ok fields := by
  induction h with
  | nil => rw [Value.encodeItems]
  | @cons v field items fields hencode _ ih =>
    obtain ⟨hfield, hrest⟩ := List.forall_mem_cons.mp hshort
    simp only [Value.encodeItems, hencode, (any_long_eq_false field).mpr hfield, ih hrest]
    rfl

/-- The first item that is too long is the error, whatever comes after it. -/
theorem encodeItems_eq_tooLong {type : PgType} {items : List Value}
    {fields : List (Option (List UInt8))} (h : Encodes type items fields)
    (hlong : ¬∀ field ∈ fields, IsShort field) :
    Value.encodeItems type items = .error .tooLong := by
  induction h with
  | nil => simp at hlong
  | @cons v field items fields hencode _ ih =>
    rw [List.forall_mem_cons] at hlong
    rw [Value.encodeItems, hencode]
    by_cases hfield : IsShort field
    · have hrest : ¬∀ field ∈ fields, IsShort field := fun hall => hlong ⟨hfield, hall⟩
      simp only [(any_long_eq_false field).mpr hfield, ih hrest]
      rfl
    · have hany : field.any (Value.maxLength < ·.length) = true := by
        rw [← Bool.not_eq_false, any_long_eq_false]
        exact hfield
      simp only [hany, if_true]

theorem encode_array_eq_ok {item : PgType} {items : List Value}
    {fields : List (Option (List UInt8))} (h : Encodes item items fields)
    (hlength : items.length ≤ Value.maxLength) (hshort : ∀ field ∈ fields, IsShort field) :
    (Value.array items).encode (.array item) =
      .ok (some (Value.arrayBytes (.array item) item fields)) := by
  simp only [Value.encode, PgType.item?, if_neg (Nat.not_lt.mpr hlength),
    encodeItems_eq_ok h hshort]
  rfl

theorem encode_array_eq_tooLong {item : PgType} {items : List Value}
    {fields : List (Option (List UInt8))} (h : Encodes item items fields)
    (hlong : ¬(items.length ≤ Value.maxLength ∧ ∀ field ∈ fields, IsShort field)) :
    (Value.array items).encode (.array item) = .error .tooLong := by
  rw [Value.encode, PgType.item?]
  by_cases hlength : Value.maxLength < items.length
  · simp only [if_pos hlength]
  · have hitems : ¬∀ field ∈ fields, IsShort field := fun hall => hlong ⟨by omega, hall⟩
    simp only [if_neg hlength, encodeItems_eq_tooLong h hitems]
    rfl

/-- The bytes of an array are read as that array, if the bytes of each item are. -/
theorem decodeArray?_arrayBytes {t : ScalarType} {items : List Value}
    {fields : List (Option (List UInt8))} (type item : PgType)
    (hread : fields.mapM (decodeNullable? t) = some items)
    (hlength : fields.length ≤ Value.maxLength) (hshort : ∀ field ∈ fields, IsShort field) :
    decodeArray? t (Value.arrayBytes type item fields) = some (.array items) := by
  simp [decodeArray?, arrayItems?_arrayBytes type item hlength hshort, hread]

example :
    Value.arrayBytes (.array (.scalar .int4)) (.scalar .int4) [some [0, 0, 0, 3], none] =
      [0, 0, 0, 1, 0, 0, 0, 1, 0, 0, 0, 23, 0, 0, 0, 2, 0, 0, 0, 1,
        0, 0, 0, 4, 0, 0, 0, 3, 255, 255, 255, 255] := by
  decide

end EntityMapper.Wire
