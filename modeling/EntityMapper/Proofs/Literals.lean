import EntityMapper.Column.Type
import EntityMapper.Proofs.Numerals

/-!
# Reading literals

A value that stands in a statement itself has to come out of it again. Here literals are read as the
server reads them: a text between quotes with every quote inside doubled, a number as far as it
goes, a few words, and an array as the list of its items.

An item of an array is followed by a comma or a bracket. Neither of them runs on like a number or
like a text between quotes, so a literal ends where it ends whatever it holds. Therefore every
literal is read back as its value, as long as the type of the column is known and no double was
rounded on the way.
-/

namespace EntityMapper

open Sql Text

/-! ## Texts between quotes -/

namespace Sql

/-- What stands inside of quotes after the first one, and what follows the last one. -/
def readQuoted : List Char → Option (List Char × List Char)
  | [] => none
  | '\'' :: '\'' :: rest => do
    let (content, rest) ← readQuoted rest
    return ('\'' :: content, rest)
  | '\'' :: rest => some ([], rest)
  | c :: rest => do
    let (content, rest) ← readQuoted rest
    return (c :: content, rest)

/-- What is quoted is read back, unless another quote follows. -/
theorem readQuoted_doubleQuotes (s : List Char) {rest : List Char} (h : rest.head? ≠ some '\'') :
    readQuoted (doubleQuotes s ++ '\'' :: rest) = some (s, rest) := by
  induction s with
  | nil =>
      cases rest with
      | nil => rfl
      | cons c rest =>
          have hc : c ≠ '\'' := fun heq => h (by rw [heq]; rfl)
          change readQuoted ('\'' :: c :: rest) = _
          rw [readQuoted]
          intro rest' heq
          exact hc (List.cons.inj heq).1
  | cons c s ih =>
      by_cases hc : c = '\''
      · rw [hc, doubleQuotes, if_pos rfl, List.cons_append, List.cons_append, readQuoted, ih]
        rfl
      · rw [doubleQuotes, if_neg hc, List.cons_append, readQuoted, ih]
        · rfl
        · intro rest' heq
          exact absurd heq hc
        · intro heq
          exact absurd heq hc

theorem toList_quote_append (s : String) (rest : List Char) :
    (quote s).toList ++ rest = '\'' :: (doubleQuotes s.toList ++ '\'' :: rest) := by
  rw [quote, String.toList_ofList, List.append_assoc]
  rfl

theorem doubleQuotes_eq_self {s : List Char} (h : '\'' ∉ s) : doubleQuotes s = s := by
  induction s with
  | nil => rfl
  | cons c s ih =>
      rw [List.mem_cons, not_or] at h
      rw [doubleQuotes, if_neg (Ne.symm h.1), ih h.2]

end Sql

/-! ## Bytes and identifiers -/

namespace Text

theorem hexValue?_hexDigit : ∀ n < 16, hexValue? (hexDigit n) = some n := by decide

theorem bytesOfHex?_hexOfBytes (bytes : List UInt8) :
    bytesOfHex? (hexOfBytes bytes) = some bytes := by
  induction bytes with
  | nil => rfl
  | cons b bytes ih =>
      have hb : b.toNat < 256 := b.toNat_lt
      rw [hexOfBytes, bytesOfHex?, hexValue?_hexDigit _ (by omega), hexValue?_hexDigit _ (by omega),
        ih]
      change some (UInt8.ofNat (16 * (b.toNat / 16) + b.toNat % 16) :: bytes) = _
      rw [Nat.div_add_mod, UInt8.ofNat_toNat]

theorem length_hexOfBytes (bytes : List UInt8) :
    (hexOfBytes bytes).length = 2 * bytes.length := by
  induction bytes with
  | nil => rfl
  | cons b bytes ih =>
      rw [hexOfBytes, List.length_cons, List.length_cons, List.length_cons, ih]
      omega

theorem not_mem_hexOfBytes (bytes : List UInt8) : '\'' ∉ hexOfBytes bytes := by
  have hdigit : ∀ n < 16, '\'' ≠ hexDigit n := by decide
  induction bytes with
  | nil => exact List.not_mem_nil
  | cons b bytes ih =>
      have hb : b.toNat < 256 := b.toNat_lt
      rw [hexOfBytes, List.mem_cons, List.mem_cons, not_or, not_or]
      exact ⟨hdigit _ (by omega), hdigit _ (by omega), ih⟩

end Text

namespace Uuid

theorem length_digits (u : Uuid) : u.digits.length = 32 := by
  rw [digits, length_hexOfBytes, u.length_bytes]

/-- The groups between the hyphens are all digits. -/
theorem digits_hyphenate {digits : List Char} (h : digits.length = 32) :
    let s := hyphenate digits
    s.take 8 ++ (s.drop 9).take 4 ++ (s.drop 14).take 4 ++ (s.drop 19).take 4 ++ s.drop 24
      = digits := by
  have hjoin : ∀ k n, (digits.drop k).take n ++ digits.drop (k + n) = digits.drop k := by
    intro k n
    rw [← List.drop_drop, List.take_append_drop]
  intro s
  have hs : s = digits.take 8 ++ ('-' :: (digits.drop 8).take 4 ++ ('-' :: (digits.drop 12).take 4
      ++ ('-' :: (digits.drop 16).take 4 ++ '-' :: digits.drop 20))) := by
    simp only [s, hyphenate, List.append_assoc]
  -- the hyphens stand at 8, 13, 18 and 23, so these are the groups between them
  have hgroups : s.take 8 ++ (s.drop 9).take 4 ++ (s.drop 14).take 4 ++ (s.drop 19).take 4
      ++ s.drop 24 = digits.take 8 ++ ((digits.drop 8).take 4 ++ ((digits.drop 12).take 4
        ++ ((digits.drop 16).take 4 ++ digits.drop 20))) := by
    rw [hs]
    simp [List.drop_append, List.drop_take, h]
  rw [hgroups, hjoin 16 4, hjoin 12 4, hjoin 8 4, List.take_append_drop]

theorem readHyphenated?_hyphenate (u : Uuid) : readHyphenated? (hyphenate u.digits) = some u := by
  have hdigits := digits_hyphenate u.length_digits
  dsimp only at hdigits
  rw [readHyphenated?, hdigits, if_pos rfl, digits, bytesOfHex?_hexOfBytes, Option.bind_some,
    ofBytes?, dif_pos u.length_bytes]

end Uuid

/-! ## Reading -/

namespace Value

/-- The value of a kind whose literal has something between quotes. -/
def ofContent? (native : NativeType) (content : List Char) : Option Value :=
  match native, content with
  | .text, content => some (.text (String.ofList content))
  | .bytes, '\\' :: 'x' :: digits => (bytesOfHex? digits).map .bytes
  | .uuid, content => (Uuid.readHyphenated? content).map .uuid
  | _, _ => none

/-- Reads a value that is written as a word. -/
def readWord? : List Char → Option (Value × List Char)
  | 'N' :: 'U' :: 'L' :: 'L' :: rest => some (.null, rest)
  | 'T' :: 'R' :: 'U' :: 'E' :: rest => some (.bool true, rest)
  | 'F' :: 'A' :: 'L' :: 'S' :: 'E' :: rest => some (.bool false, rest)
  | _ => none

def isIntegerChar (c : Char) : Bool := c.isDigit || c == '-'

/-- Reads an integer as far as it goes. -/
def readInteger? (s : List Char) : Option (Value × List Char) :=
  let word := s.takeWhile isIntegerChar
  if word = [] then none else some (.int (.ofInt (intOfChars word)), s.dropWhile isIntegerChar)

/-- Reads the literal of a single value of a kind, or of NULL. -/
def readSingle? (native : NativeType) : List Char → Option (Value × List Char)
  | '\'' :: rest => do
    let (content, rest) ← readQuoted rest
    return (← ofContent? native content, rest)
  | s => readWord? s <|> readInteger? s

/-- Reads the items of an array after its opening bracket, at most as many as `most`. -/
def readItems? (native : NativeType) : Nat → List Char → Option (List Value × List Char)
  | 0, _ => none
  | most + 1, s => do
    let (v, rest) ← readSingle? native s
    match rest with
    | ']' :: rest => return ([v], rest)
    | ',' :: ' ' :: rest =>
      let (vs, rest) ← readItems? native most rest
      return (v :: vs, rest)
    | _ => none

/-- Reads the literal of an array of single values of a kind, or of NULL. -/
def readArray? (native : NativeType) : List Char → Option (Value × List Char)
  | '\'' :: '\x7b' :: '\x7d' :: '\'' :: rest => some (.array [], rest)
  | 'A' :: 'R' :: 'R' :: 'A' :: 'Y' :: '[' :: rest => do
    let (items, rest) ← readItems? native rest.length rest
    return (.array items, rest)
  | s => readWord? s

/-- Reads the literal of a value of a column. -/
def readValue? (type : ColumnType) (s : List Char) : Option (Value × List Char) :=
  if type.isArray then readArray? type.native s else readSingle? type.native s

/-- The value of a column that a text is the literal of. -/
def readLiteral? (type : ColumnType) (s : String) : Option Value := do
  let (v, rest) ← readValue? type s.toList
  if rest.isEmpty then some v else none

/-! ## Single values -/

/-- Whether no double stands anywhere in a value. -/
def LacksFloat : Value → Prop
  | .float _ => False
  | .array items => ∀ v ∈ items, v.LacksFloat
  | _ => True

/-- The single values of the kinds whose literals are exact. -/
inductive IsExact : NativeType → Value → Prop where
  | null (native : NativeType) : IsExact native .null
  | bool (b : Bool) : IsExact .bool (.bool b)
  | int (n : Int64) : IsExact .integer (.int n)
  | text (s : String) : IsExact .text (.text s)
  | bytes (bytes : List UInt8) : IsExact .bytes (.bytes bytes)
  | uuid (u : Uuid) : IsExact .uuid (.uuid u)

theorem isExact_of_accepts {native : NativeType} {v : Value}
    (hkind : native ∈ [NativeType.text, .bool, .bytes, .uuid, .integer])
    (hv : native.accepts v = true) (hf : v.LacksFloat) : IsExact native v := by
  simp only [List.mem_cons, List.not_mem_nil, or_false] at hkind
  cases v with
  | null => exact .null native
  | float x =>
      rw [LacksFloat] at hf
      exact hf.elim
  | _ => rcases hkind with rfl | rfl | rfl | rfl | rfl <;> first | constructor | cases hv

/-- Whether a literal ends before a text, whatever the literal is. -/
def EndsBefore (rest : List Char) : Prop :=
  ∀ c ∈ rest.head?, c ≠ '\'' ∧ isIntegerChar c = false

theorem endsBefore_nil : EndsBefore [] := nofun

theorem endsBefore_cons {c : Char} {rest : List Char} (h : c ≠ '\'' ∧ isIntegerChar c = false) :
    EndsBefore (c :: rest) := by
  rintro _ ⟨⟩
  exact h

variable {native : NativeType} {v : Value} {rest : List Char}

theorem readSingle?_quote {s : String} (h : EndsBefore rest)
    (hv : ofContent? native s.toList = some v) :
    readSingle? native ((quote s).toList ++ rest) = some (v, rest) := by
  have hquote : rest.head? ≠ some '\'' := fun heq => (h _ heq).1 rfl
  rw [toList_quote_append, readSingle?, readQuoted_doubleQuotes _ hquote]
  change (ofContent? native s.toList >>= fun v => some (v, rest)) = _
  rw [hv]
  rfl

theorem quote_bytes (bytes : List UInt8) :
    literal (.bytes bytes) = quote (String.ofList ('\\' :: 'x' :: hexOfBytes bytes)) := by
  have hquote : '\'' ∉ '\\' :: 'x' :: hexOfBytes bytes := by
    rw [List.mem_cons, List.mem_cons, not_or, not_or]
    exact ⟨by decide, by decide, not_mem_hexOfBytes bytes⟩
  apply String.toList_injective
  rw [quote, String.toList_ofList, String.toList_ofList, doubleQuotes_eq_self hquote]
  change ("'\\x" ++ String.ofList (hexOfBytes bytes) ++ "'").toList = _
  have hdigits : (String.ofList (hexOfBytes bytes)).toList = hexOfBytes bytes :=
    String.toList_ofList
  rw [String.toList_append, String.toList_append, hdigits]
  rfl

/-- An integer is read as far as it goes. -/
theorem readInteger?_toString (n : Int64) (h : EndsBefore rest) :
    readInteger? ((toString n.toInt).toList ++ rest) = some (.int n, rest) := by
  have hchars : ∀ c ∈ (toString n.toInt).toList, isIntegerChar c = true := by
    intro c hc
    rw [isIntegerChar, Bool.or_eq_true, beq_iff_eq]
    exact mem_toString_int hc
  have hspan := span_append hchars fun c hc => (h c hc).2
  have hn := intOfChars_toString n.toInt
  rw [readInteger?, hspan.1, hspan.2, if_neg hn.1, hn.2, Int64.ofInt_toInt]

/-- What begins like an integer is no word and no text between quotes. -/
theorem readSingle?_of_isIntegerChar {c : Char} (hc : isIntegerChar c = true) (s : List Char) :
    readSingle? native (c :: s) = readInteger? (c :: s) := by
  have hne : ∀ d, isIntegerChar d = false → c ≠ d := by
    rintro _ hd rfl
    rw [hc] at hd
    cases hd
  have hword : readWord? (c :: s) = none := by
    rw [readWord?]
    · exact fun _ heq => absurd (List.cons.inj heq).1 (hne 'N' rfl)
    · exact fun _ heq => absurd (List.cons.inj heq).1 (hne 'T' rfl)
    · exact fun _ heq => absurd (List.cons.inj heq).1 (hne 'F' rfl)
  rw [readSingle?]
  · rw [hword]
    rfl
  · exact fun _ heq => absurd (List.cons.inj heq).1 (hne '\'' rfl)

/-- **The literal of a single value is read back**, whatever follows that it can end before. -/
theorem readSingle?_literal (hv : IsExact native v) (h : EndsBefore rest) :
    readSingle? native (v.literal.toList ++ rest) = some (v, rest) := by
  cases hv with
  | null => rfl
  | bool b => cases b <;> rfl
  | text s =>
      refine readSingle?_quote h ?_
      rw [ofContent?, String.ofList_toList]
  | bytes bytes =>
      rw [quote_bytes]
      refine readSingle?_quote h ?_
      rw [String.toList_ofList, ofContent?, bytesOfHex?_hexOfBytes]
      rfl
  | uuid u =>
      refine readSingle?_quote h ?_
      rw [Uuid.text, String.toList_ofList, ofContent?, Uuid.readHyphenated?_hyphenate]
      rfl
  | int n =>
      change readSingle? .integer ((toString n.toInt).toList ++ rest) = _
      rw [← readInteger?_toString n h]
      cases hn : (toString n.toInt).toList with
      | nil => exact absurd hn (intOfChars_toString n.toInt).1
      | cons c s =>
          refine readSingle?_of_isIntegerChar ?_ _
          rw [isIntegerChar, Bool.or_eq_true, beq_iff_eq]
          exact mem_toString_int (hn ▸ List.mem_cons_self)

/-! ## Arrays -/

theorem toList_literalTail_append (v : Value) (items : List Value) (rest : List Char) :
    (literalTail (v :: items)).toList ++ rest
      = ',' :: ' ' :: (v.literal.toList ++ ((literalTail items).toList ++ rest)) := by
  rw [literalTail, String.toList_append, String.toList_append, List.append_assoc,
    List.append_assoc]
  rfl

theorem toList_literal_array_append (v : Value) (items : List Value) (rest : List Char) :
    (array (v :: items)).literal.toList ++ rest = 'A' :: 'R' :: 'R' :: 'A' :: 'Y' :: '['
      :: (v.literal.toList ++ ((literalTail items).toList ++ ']' :: rest)) := by
  rw [literal, String.toList_append, String.toList_append, String.toList_append,
    List.append_assoc, List.append_assoc, List.append_assoc]
  rfl

theorem length_le_literalTail (items : List Value) :
    items.length ≤ (literalTail items).toList.length := by
  induction items with
  | nil => exact Nat.zero_le _
  | cons item items ih =>
      rw [literalTail, String.toList_append, String.toList_append, List.length_append,
        List.length_append, List.length_cons]
      have hcomma : ", ".toList.length = 2 := rfl
      omega

/-- **The items of an array are read back one after the other**, whatever they hold. -/
theorem readItems?_literal {items : List Value} (hv : IsExact native v)
    (hitems : ∀ w ∈ items, IsExact native w) {most : Nat} (hmost : items.length < most) :
    readItems? native most (v.literal.toList ++ ((literalTail items).toList ++ ']' :: rest))
      = some (v :: items, rest) := by
  -- each item takes one off the count, which the text after it still covers
  induction items generalizing v most with
  | nil =>
      obtain ⟨most, rfl⟩ := Nat.exists_eq_succ_of_ne_zero (Nat.ne_zero_of_lt hmost)
      have hends : EndsBefore (']' :: rest) := endsBefore_cons (by decide)
      change readItems? native (most + 1) (v.literal.toList ++ ']' :: rest) = _
      rw [readItems?, readSingle?_literal hv hends]
      rfl
  | cons w items ih =>
      obtain ⟨most, rfl⟩ := Nat.exists_eq_succ_of_ne_zero (Nat.ne_zero_of_lt hmost)
      have hrest := ih (hitems w List.mem_cons_self)
        (fun x hx => hitems x (List.mem_cons_of_mem w hx)) (Nat.lt_of_succ_lt_succ hmost)
      rw [toList_literalTail_append, readItems?,
        readSingle?_literal hv (endsBefore_cons (by decide))]
      change (readItems? native most _ >>= fun r => some (v :: r.1, r.2)) = _
      rw [hrest]
      rfl

/-- An array needs nothing of what follows it, since a bracket or a quote of its own closes it. -/
theorem readArray?_literal {items : List Value} (h : ∀ w ∈ items, IsExact native w) :
    readArray? native ((array items).literal.toList ++ rest) = some (.array items, rest) := by
  cases items with
  | nil => rfl
  | cons v items =>
      obtain ⟨hv, hitems⟩ := List.forall_mem_cons.mp h
      have hmost : items.length
          < (v.literal.toList ++ ((literalTail items).toList ++ ']' :: rest)).length := by
        have htail := length_le_literalTail items
        rw [List.length_append, List.length_append, List.length_cons]
        omega
      rw [toList_literal_array_append, readArray?, readItems?_literal hv hitems hmost]
      rfl

/-! ## Literals of a column -/

section

variable {type : ColumnType}

/-- The literal of an accepted value is read back if the kind of the column is exact. -/
theorem readLiteral?_literal (hkind : type.native ∈ [.text, .bool, .bytes, .uuid, .integer])
    (hv : type.accepts v = true) (hf : v.LacksFloat) : readLiteral? type v.literal = some v := by
  have hread : readValue? type v.literal.toList = some (v, []) := by
    rw [readValue?, ← List.append_nil v.literal.toList]
    by_cases harray : type.isArray
    · rw [if_pos harray]
      obtain rfl | ⟨items, rfl, hitems⟩ := (ColumnType.accepts_several harray v).mp hv
      · rfl
      · rw [LacksFloat] at hf
        exact readArray?_literal fun w hw => isExact_of_accepts hkind (hitems w hw) (hf w hw)
    · rw [if_neg harray]
      rw [ColumnType.accepts_single (Bool.eq_false_iff.mpr harray)] at hv
      exact readSingle?_literal (isExact_of_accepts hkind hv hf) endsBefore_nil
  rw [readLiteral?, hread]
  rfl

/-- **Literals lose nothing**: two values of a column of an exact kind have the same literal only if
they are the same value. -/
theorem literal_eq_iff_of_accepts (hkind : type.native ∈ [.text, .bool, .bytes, .uuid, .integer])
    {a b : Value} (ha : type.accepts a = true) (hb : type.accepts b = true) (hfa : a.LacksFloat)
    (hfb : b.LacksFloat) : a.literal = b.literal ↔ a = b := by
  refine ⟨fun h => ?_, congrArg literal⟩
  have hread := readLiteral?_literal hkind ha hfa
  rw [h, readLiteral?_literal hkind hb hfb] at hread
  exact (Option.some.inj hread).symm

/-- One item with a comma between quotes is not two items. -/
theorem literal_ne_of_comma_in_item :
    let type : ColumnType := ⟨.text, true⟩
    let a := array [.text "a', 'b", .null]
    let b := array [.text "a", .text "b", .null]
    type.accepts a = true ∧ type.accepts b = true ∧ a.LacksFloat ∧ b.LacksFloat
      ∧ a.literal ≠ b.literal := by
  intro type a b
  have ha : type.accepts a = true := by decide
  have hb : type.accepts b = true := by decide
  have hfa : a.LacksFloat := by simp [a, LacksFloat]
  have hfb : b.LacksFloat := by simp [b, LacksFloat]
  refine ⟨ha, hb, hfa, hfb, fun h => ?_⟩
  have heq := (literal_eq_iff_of_accepts (by decide) ha hb hfa hfb).mp h
  simp [a, b] at heq

end

end Value

end EntityMapper
