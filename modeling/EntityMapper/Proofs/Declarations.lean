import EntityMapper.Expr.Operand
import EntityMapper.Proofs.Literals

/-!
# Equal columns

Columns are compared by their SQL types with all clauses, which is one text, and a default in this
text can hold anything between its quotes. The text is taken apart from the left: the base type
ends with its capital letters, a size and a length stand between brackets, and no clause begins
like another one. That leaves the default with the key behind it, and no literal ends like that
clause. So columns that are declared with the shorthands and modifiers are equal if and only if
they are declared alike.
-/

namespace EntityMapper

namespace Column

open Sql

/-! ## Declared columns -/

/-- The columns that declarations start from. -/
def shorthands : List Column :=
  [text, varchar, integer, bigint, smallint, float, real, boolean, serial, bigserial, bytea, uuid,
    timestamp, timestamptz, json, jsonb]

/-- Whether a column is declared with a shorthand and modifiers, bound or not. Nothing rewrites its
SQL type. -/
inductive IsDeclared : Column → Prop where
  | shorthand {c : Column} (h : c ∈ shorthands) : IsDeclared c
  | sized {c : Column} (h : IsDeclared c) (size : Nat) : IsDeclared (c.sized size)
  | asArray {c : Column} (h : IsDeclared c) : IsDeclared c.asArray
  | asArraySized {c : Column} (h : IsDeclared c) (length : Nat) : IsDeclared (c.asArraySized length)
  | unique {c : Column} (h : IsDeclared c) : IsDeclared c.unique
  | notNull {c : Column} (h : IsDeclared c) : IsDeclared c.notNull
  | withDefault {c : Column} (h : IsDeclared c) (v : Value) : IsDeclared (c.withDefault v)
  | withCheck {c : Column} (h : IsDeclared c) (check : Value → Bool) :
      IsDeclared (c.withCheck check)
  | identity {c : Column} (h : IsDeclared c) : IsDeclared c.identity
  | primaryKey {c : Column} (h : IsDeclared c) : IsDeclared c.primaryKey
  | bind {c : Column} (h : IsDeclared c) (table name : String) (default : Option Value) :
      IsDeclared (c.bind table name default)

/-- Whether two columns are declared alike. Of defaults only the literals count, and checks do not
count at all. -/
structure SameDeclaration (a b : Column) : Prop where
  native : a.native = b.native
  baseType : a.baseType = b.baseType
  size : a.size = b.size
  isArray : a.isArray = b.isArray
  arrayLength : a.arrayLength = b.arrayLength
  isUnique : a.isUnique = b.isUnique
  isNotNull : a.isNotNull = b.isNotNull
  isPrimaryKey : a.isPrimaryKey = b.isPrimaryKey
  isIdentity : a.isIdentity = b.isIdentity
  binding : a.binding = b.binding
  default : a.default.map Value.literal = b.default.map Value.literal

/-- The SQL types that the shorthands give. -/
def baseTypes : List String := shorthands.map (·.baseType)

theorem IsDeclared.baseType_mem {c : Column} (h : c.IsDeclared) : c.baseType ∈ baseTypes := by
  induction h with
  | shorthand h => exact List.mem_map_of_mem h
  | _ => assumption

/-- Only array columns have a declared length. -/
theorem IsDeclared.arrayLength_eq_none {c : Column} (h : c.IsDeclared) :
    c.isArray = false → c.arrayLength = none := by
  induction h with
  | shorthand h =>
      have hall : ∀ c ∈ shorthands, c.arrayLength = none := by decide
      exact fun _ => hall _ h
  | asArray h =>
      intro harray
      cases harray
  | asArraySized h length =>
      intro harray
      cases harray
  | _ => assumption

/-! ## Parts of the SQL type -/

/-- Whether a text is empty or begins with one of a few characters. -/
def Starts (firsts s : List Char) : Prop := ∀ c ∈ s.head?, c ∈ firsts

/-- The digits of a number that may be missing. -/
def digits : Option Nat → List Char
  | some n => Nat.toDigits 10 n
  | none => []

/-- A number between brackets. Brackets may have none between them, and may be missing too. -/
def bracketed (opening closing : Char) : Option (Option Nat) → List Char
  | some n => opening :: (digits n ++ [closing])
  | none => []

/-- A clause that may be missing. -/
def flagged (present : Bool) (clause : List Char) : List Char := if present then clause else []

/-- The clause of a default, which may be missing. -/
def defaulted : Option String → List Char
  | some literal => " DEFAULT ".toList ++ literal.toList
  | none => []

/-- What stands between the brackets of an array type. -/
def bracketedLength (c : Column) : Option (Option Nat) :=
  if c.isArray then some c.arrayLength else none

/-- The clauses that follow a type. -/
def clauses (c : Column) : List Char :=
  flagged c.isUnique " UNIQUE".toList ++ (flagged c.isNotNull " NOT NULL".toList ++
    (defaulted (c.default.map Value.literal) ++ flagged c.isPrimaryKey " PRIMARY KEY".toList))

theorem toList_sqlType (c : Column) :
    c.sqlType.toList = c.baseType.toList ++ (bracketed '(' ')' (c.size.map some) ++
      (bracketed '[' ']' c.bracketedLength ++ c.clauses)) := by
  have hclause : ∀ (present : Bool) (clause : String),
      (if present then clause else "").toList = flagged present clause.toList := by
    intro present clause
    cases present <;> rfl
  have hsize : c.sizeText.toList = bracketed '(' ')' (c.size.map some) := by
    unfold sizeText
    cases c.size with
    | none => rfl
    | some n =>
        rw [String.toList_append, String.toList_append, toList_toString_nat]
        rfl
  have harray : c.arrayText.toList = bracketed '[' ']' c.bracketedLength := by
    unfold arrayText bracketedLength
    cases c.isArray with
    | false => rfl
    | true =>
        cases c.arrayLength with
        | none => rfl
        | some n =>
            dsimp only
            rw [if_pos rfl, String.toList_append, String.toList_append, toList_toString_nat]
            rfl
  have hdefault : c.defaultText.toList = defaulted (c.default.map Value.literal) := by
    unfold defaultText
    cases c.default with
    | none => rfl
    | some v => exact String.toList_append
  simp only [sqlType, String.toList_append, hclause, hsize, harray, hdefault, clauses,
    List.append_assoc]

/-! ## Taking the parts off -/

variable {s t u v firsts others : List Char}

theorem Starts.append (hs : Starts firsts s) (ht : Starts others t) :
    Starts (firsts ++ others) (s ++ t) := by
  intro c hc
  cases s with
  | nil => exact List.mem_append_right _ (ht c hc)
  | cons d s => exact List.mem_append_left _ (hs c hc)

theorem starts_flagged (present : Bool) (c : Char) (clause : List Char) :
    Starts [c] (flagged present (c :: clause)) := by
  cases present with
  | false => exact nofun
  | true =>
      rintro _ ⟨⟩
      exact List.mem_singleton_self c

theorem starts_bracketed (opening closing : Char) (n : Option (Option Nat)) :
    Starts [opening] (bracketed opening closing n) := by
  cases n with
  | none => exact nofun
  | some n =>
      rintro _ ⟨⟩
      exact List.mem_singleton_self opening

theorem starts_defaulted (literal : Option String) : Starts [' '] (defaulted literal) := by
  cases literal with
  | none => exact nofun
  | some literal =>
      rintro _ ⟨⟩
      exact List.mem_singleton_self ' '

theorem starts_clauses (c : Column) : Starts [' ', ' ', ' ', ' '] c.clauses :=
  (starts_flagged _ _ _).append ((starts_flagged _ _ _).append
    ((starts_defaulted _).append (starts_flagged _ _ _)))

/-- A base type is as long as its capital letters go on, and these tell which one it is. -/
theorem baseType_append_inj {a b : String} (ha : a ∈ baseTypes) (hb : b ∈ baseTypes)
    (hu : ∀ c ∈ u.head?, c.isUpper = false) (hv : ∀ c ∈ v.head?, c.isUpper = false)
    (h : a.toList ++ u = b.toList ++ v) : a = b ∧ u = v := by
  have hwords : ∀ a ∈ baseTypes, ∀ b ∈ baseTypes,
      a.toList.takeWhile Char.isUpper = b.toList.takeWhile Char.isUpper → a = b := by decide
  obtain rfl : a = b := by
    refine hwords a ha b hb ?_
    rw [← takeWhile_append_of_head hu, h, takeWhile_append_of_head hv]
  exact ⟨rfl, List.append_cancel_left h⟩

theorem isDigit_digits {n : Option Nat} : ∀ c ∈ digits n, c.isDigit = true := by
  cases n with
  | none => exact nofun
  | some n => exact fun c hc => isDigit_of_mem_toDigits hc

theorem digits_injective : Function.Injective digits := by
  intro m n h
  cases m with
  | none =>
      cases n with
      | none => rfl
      | some n => exact absurd h.symm Nat.toDigits_ne_nil
  | some m =>
      cases n with
      | none => exact absurd h Nat.toDigits_ne_nil
      | some n =>
          have hread := congrArg (Nat.ofDigitChars 10 · 0) h
          dsimp only [digits] at hread
          rw [Nat.ofDigitChars_ten_toDigits, Nat.ofDigitChars_ten_toDigits] at hread
          exact congrArg some hread

/-- Brackets and the number between them are read off if nothing else begins like them. -/
theorem bracketed_append_inj {opening closing : Char} (hclosing : closing.isDigit = false)
    {m n : Option (Option Nat)} (hu : Starts firsts u) (hv : Starts firsts v)
    (hopening : opening ∉ firsts)
    (h : bracketed opening closing m ++ u = bracketed opening closing n ++ v) : m = n ∧ u = v := by
  have hmissing : ∀ {w w' : List Char} {n : Option Nat}, Starts firsts w →
      w ≠ bracketed opening closing (some n) ++ w' := by
    rintro w w' n hw rfl
    exact hopening (hw opening rfl)
  cases m with
  | none =>
      cases n with
      | none => exact ⟨rfl, h⟩
      | some n => exact absurd h (hmissing hu)
  | some m =>
      cases n with
      | none => exact absurd h.symm (hmissing hv)
      | some n =>
          have hspan : ∀ (n : Option Nat) (w : List Char),
              (digits n ++ closing :: w).takeWhile Char.isDigit = digits n := by
            intro n w
            refine (span_append isDigit_digits ?_).1
            rintro _ ⟨⟩
            exact hclosing
          have htail : digits m ++ closing :: u = digits n ++ closing :: v := by
            simpa [bracketed] using h
          obtain rfl : m = n := by
            apply digits_injective
            rw [← hspan m u, htail, hspan]
          exact ⟨rfl, (List.cons.inj (List.append_cancel_left htail)).2⟩

/-- The letter after the blank with which a clause begins. -/
def initial (s : List Char) : Option Char := s.tail.head?

theorem flagged_append_inj {c d : Char} {clause : List Char} {p q : Bool}
    (hu : initial u ≠ some d) (hv : initial v ≠ some d)
    (h : flagged p (c :: d :: clause) ++ u = flagged q (c :: d :: clause) ++ v) :
    p = q ∧ u = v := by
  cases p with
  | false =>
      cases q with
      | false => exact ⟨rfl, h⟩
      | true => exact absurd (congrArg initial h) hu
  | true =>
      cases q with
      | false => exact absurd (congrArg initial h).symm hv
      | true => exact ⟨rfl, List.append_cancel_left h⟩

theorem initial_flagged {c d e : Char} (clause : List Char) (p : Bool) (hd : d ≠ e)
    (hu : initial u ≠ some e) : initial (flagged p (c :: d :: clause) ++ u) ≠ some e := by
  cases p with
  | false => exact hu
  | true => exact fun heq => hd (Option.some.inj heq)

theorem initial_defaulted (literal : Option String) {e : Char} (he : 'D' ≠ e)
    (hu : initial u ≠ some e) : initial (defaulted literal ++ u) ≠ some e := by
  cases literal with
  | none => exact hu
  | some literal => exact fun heq => he (Option.some.inj heq)

/-- A key is read off behind what does not end like its clause. -/
theorem append_key_inj {p q : Bool} (hs : s.getLast? ≠ some 'Y') (ht : t.getLast? ≠ some 'Y')
    (h : s ++ flagged p " PRIMARY KEY".toList = t ++ flagged q " PRIMARY KEY".toList) :
    s = t ∧ p = q := by
  have hend : ∀ {s t : List Char}, t.getLast? ≠ some 'Y' → s ++ " PRIMARY KEY".toList ≠ t := by
    rintro s _ hlast rfl
    apply hlast
    rw [List.getLast?_append]
    rfl
  cases p with
  | false =>
      cases q with
      | false => exact ⟨List.append_cancel_right h, rfl⟩
      | true => exact absurd (h.symm.trans (List.append_nil s)) (hend hs)
  | true =>
      cases q with
      | false => exact absurd (h.trans (List.append_nil t)) (hend ht)
      | true => exact ⟨List.append_cancel_right h, rfl⟩

/-- So are a default and the key behind it. -/
theorem defaulted_append_inj {m n : Option String} {p q : Bool}
    (hm : ∀ literal ∈ m, literal.toList.getLast? ≠ some 'Y')
    (hn : ∀ literal ∈ n, literal.toList.getLast? ≠ some 'Y')
    (h : defaulted m ++ flagged p " PRIMARY KEY".toList
      = defaulted n ++ flagged q " PRIMARY KEY".toList) : m = n ∧ p = q := by
  have hkey : ∀ p : Bool, initial (flagged p " PRIMARY KEY".toList) ≠ some 'D' := by decide
  have hclause : ∀ (literal : String) (u : List Char),
      initial (defaulted (some literal) ++ u) = some 'D' := fun _ _ => rfl
  cases m with
  | none =>
      cases n with
      | none =>
          have hkeys := append_key_inj (s := []) (t := []) nofun nofun h
          exact ⟨rfl, hkeys.2⟩
      | some literal =>
          have hinitial := congrArg initial h
          rw [hclause] at hinitial
          exact absurd hinitial (hkey p)
  | some literal =>
      cases n with
      | none =>
          have hinitial := congrArg initial h
          rw [hclause] at hinitial
          exact absurd hinitial.symm (hkey q)
      | some literal' =>
          unfold defaulted at h
          rw [List.append_assoc, List.append_assoc] at h
          obtain ⟨hsame, hkeys⟩ :=
            append_key_inj (hm literal rfl) (hn literal' rfl) (List.append_cancel_left h)
          exact ⟨congrArg some (String.toList_injective hsame), hkeys⟩

/-! ## Ends of literals -/

theorem getLast?_quote (s : String) : (quote s).toList.getLast? = some '\'' := by
  rw [quote, String.toList_ofList]
  exact List.getLast?_concat

theorem getLast?_ne_of_isNumeral {t : List Char} (h : IsNumeral t) : t.getLast? ≠ some 'Y' := by
  intro hlast
  have hchar := h 'Y' (List.mem_of_getLast? hlast)
  exact absurd hchar (by decide)

theorem getLast?_floatLiteral (x : Number.Binary64) :
    (floatLiteral x).toList.getLast? ≠ some 'Y' := by
  unfold floatLiteral
  split
  · decide
  · split
    · split <;> decide
    · exact getLast?_ne_of_isNumeral (Number.isNumeral_text .literal x)

/-- No literal ends like the clause of a key. -/
theorem getLast?_literal (v : Value) : v.literal.toList.getLast? ≠ some 'Y' := by
  have hlast : ∀ {s : String} {c : Char}, s.toList.getLast? = some c → c ≠ 'Y' →
      s.toList.getLast? ≠ some 'Y' := by
    intro s c hs hc heq
    exact hc (Option.some.inj (hs.symm.trans heq))
  cases v with
  | null => decide
  | bool b => cases b <;> decide
  | int n => exact getLast?_ne_of_isNumeral (isNumeral_toString_int n.toInt)
  | float x => exact getLast?_floatLiteral x
  | text s => exact hlast (getLast?_quote s) (by decide)
  | uuid u => exact hlast (getLast?_quote u.text) (by decide)
  | timestamp t => exact hlast (getLast?_quote t.text) (by decide)
  | timestampTz t => exact hlast (getLast?_quote (t.isoText ++ "+00:00")) (by decide)
  | json j => exact hlast (getLast?_quote j.compact) (by decide)
  | bytes b =>
      rw [Value.quote_bytes]
      exact hlast (getLast?_quote _) (by decide)
  | array items =>
      cases items with
      | nil => decide
      | cons item items =>
          refine hlast (c := ']') ?_ (by decide)
          rw [Value.literal, String.toList_append]
          exact List.getLast?_concat

theorem getLast?_default (c : Column) :
    ∀ literal ∈ c.default.map Value.literal, literal.toList.getLast? ≠ some 'Y' := by
  intro literal h
  obtain ⟨v, -, rfl⟩ := Option.map_eq_some_iff.mp h
  exact getLast?_literal v

/-! ## Equality -/

theorem bracketedLength_inj {a b : Column} (ha : a.IsDeclared) (hb : b.IsDeclared)
    (h : a.bracketedLength = b.bracketedLength) :
    a.isArray = b.isArray ∧ a.arrayLength = b.arrayLength := by
  unfold bracketedLength at h
  cases haarray : a.isArray with
  | false =>
      cases hbarray : b.isArray with
      | false => exact ⟨rfl, by rw [ha.arrayLength_eq_none haarray, hb.arrayLength_eq_none hbarray]⟩
      | true => simp [haarray, hbarray] at h
  | true =>
      cases hbarray : b.isArray with
      | false => simp [haarray, hbarray] at h
      | true =>
          rw [haarray, hbarray] at h
          exact ⟨rfl, Option.some.inj h⟩

/-- The SQL type tells everything that is written into it. -/
theorem sqlType_inj {a b : Column} (ha : a.IsDeclared) (hb : b.IsDeclared)
    (h : a.sqlType = b.sqlType) :
    a.baseType = b.baseType ∧ a.size = b.size ∧ a.bracketedLength = b.bracketedLength
      ∧ a.clauses = b.clauses := by
  have harray : ∀ c : Column, Starts ['[', ' ', ' ', ' ', ' ']
      (bracketed '[' ']' c.bracketedLength ++ c.clauses) :=
    fun c => (starts_bracketed _ _ _).append (starts_clauses c)
  have htype : ∀ c : Column, ∀ d ∈ (bracketed '(' ')' (c.size.map some)
      ++ (bracketed '[' ']' c.bracketedLength ++ c.clauses)).head?, d.isUpper = false := by
    intro c d hd
    have hcase : ['(', '[', ' ', ' ', ' ', ' '].all (!Char.isUpper ·) = true := by decide
    have hlower := List.all_eq_true.mp hcase d ((starts_bracketed _ _ _).append (harray c) d hd)
    rwa [Bool.not_eq_true'] at hlower
  -- the parts come off from the left, as nothing that may follow one of them goes on with it
  have hlist := congrArg String.toList h
  rw [toList_sqlType, toList_sqlType] at hlist
  obtain ⟨hbase, hlist⟩ :=
    baseType_append_inj ha.baseType_mem hb.baseType_mem (htype a) (htype b) hlist
  obtain ⟨hsize, hlist⟩ := bracketed_append_inj (by decide) (harray a) (harray b) (by decide) hlist
  obtain ⟨hlength, hclauses⟩ := bracketed_append_inj (by decide) (starts_clauses a)
    (starts_clauses b) (by decide) hlist
  exact ⟨hbase, Option.map_injective (fun _ _ => Option.some.inj) hsize, hlength, hclauses⟩

theorem clauses_inj {a b : Column} (h : a.clauses = b.clauses) :
    a.isUnique = b.isUnique ∧ a.isNotNull = b.isNotNull
      ∧ a.default.map Value.literal = b.default.map Value.literal
      ∧ a.isPrimaryKey = b.isPrimaryKey := by
  -- what may follow UNIQUE and NOT NULL begins with another letter than these
  have hlater : ∀ (c : Column) (e : Char), 'D' ≠ e → 'P' ≠ e →
      initial (defaulted (c.default.map Value.literal)
        ++ flagged c.isPrimaryKey " PRIMARY KEY".toList) ≠ some e := by
    intro c e hd hp
    refine initial_defaulted _ hd ?_
    rw [← List.append_nil (flagged _ _)]
    exact initial_flagged _ _ hp nofun
  have hunique : ∀ c : Column, initial (flagged c.isNotNull " NOT NULL".toList
      ++ (defaulted (c.default.map Value.literal)
        ++ flagged c.isPrimaryKey " PRIMARY KEY".toList)) ≠ some 'U' :=
    fun c => initial_flagged _ _ (by decide) (hlater c 'U' (by decide) (by decide))
  have hnotNull := fun c : Column => hlater c 'N' (by decide) (by decide)
  obtain ⟨huniques, h⟩ := flagged_append_inj (hunique a) (hunique b) h
  obtain ⟨hnotNulls, h⟩ := flagged_append_inj (hnotNull a) (hnotNull b) h
  obtain ⟨hdefaults, hkeys⟩ := defaulted_append_inj (getLast?_default a) (getLast?_default b) h
  exact ⟨huniques, hnotNulls, hdefaults, hkeys⟩

theorem beq_eq_true_iff {a b : Column} : (a == b) = true ↔
    a.native = b.native ∧ a.isIdentity = b.isIdentity ∧ a.binding = b.binding
      ∧ a.sqlType = b.sqlType := by
  change Column.beq a b = true ↔ _
  simp [Column.beq, and_assoc]

namespace SameDeclaration

variable {a b : Column}

theorem sqlType_eq (h : SameDeclaration a b) : a.sqlType = b.sqlType := by
  apply String.toList_injective
  rw [toList_sqlType, toList_sqlType, bracketedLength, bracketedLength, clauses, clauses,
    h.baseType, h.size, h.isArray, h.arrayLength, h.isUnique, h.isNotNull, h.isPrimaryKey,
    h.default]

theorem type_eq (h : SameDeclaration a b) : a.type = b.type := by
  rw [type, type, h.native, h.isArray]

theorem toExpr_eq (h : SameDeclaration a b) : a.toExpr = b.toExpr := by
  rw [toExpr, toExpr, toRef, toRef, notBound, notBound, h.binding, h.baseType, h.type_eq]

end SameDeclaration

theorem beq_iff_sameDeclaration {a b : Column} (ha : a.IsDeclared) (hb : b.IsDeclared) :
    (a == b) = true ↔ SameDeclaration a b := by
  rw [beq_eq_true_iff]
  constructor
  · rintro ⟨hnative, hidentity, hbinding, htype⟩
    obtain ⟨hbase, hsize, hlength, hclauses⟩ := sqlType_inj ha hb htype
    obtain ⟨harray, hlength⟩ := bracketedLength_inj ha hb hlength
    obtain ⟨hunique, hnotNull, hdefault, hkey⟩ := clauses_inj hclauses
    exact ⟨hnative, hbase, hsize, harray, hlength, hunique, hnotNull, hkey, hidentity, hbinding,
      hdefault⟩
  · intro h
    exact ⟨h.native, h.isIdentity, h.binding, h.sqlType_eq⟩

/-! ## Hash sets -/

/-- What the hash of a column is computed from. -/
def hashed (c : Column) : NativeType × String × Bool × Option Binding :=
  (c.native, c.sqlType, c.isIdentity, c.binding)

theorem beq_iff_hashed_eq {a b : Column} : (a == b) = true ↔ a.hashed = b.hashed := by
  rw [beq_eq_true_iff, hashed, hashed, Prod.mk.injEq, Prod.mk.injEq, Prod.mk.injEq]
  constructor
  · rintro ⟨hnative, hidentity, hbinding, htype⟩
    exact ⟨hnative, htype, hidentity, hbinding⟩
  · rintro ⟨hnative, htype, hidentity, hbinding⟩
    exact ⟨hnative, hidentity, hbinding, htype⟩

section

variable (hash : NativeType × String × Bool × Option Binding → UInt64)

/-- Puts a column into a hash set, where it is compared only with columns of the same hash. -/
def insertHashed (set : List Column) (c : Column) : List Column :=
  if set.any fun d => hash c.hashed == hash d.hashed && c == d then set else set ++ [c]

/-- The hash set of some columns, in the order in which they came into it. -/
def hashSet (columns : List Column) : List Column := columns.foldl (insertHashed hash) []

/-- The hash makes no difference, as equal columns have the same one. -/
theorem hashSet_eq_distinct (columns : List Column) : hashSet hash columns = distinct columns := by
  have hfound : ∀ c d : Column, (hash c.hashed == hash d.hashed && c == d) = (c == d) := by
    intro c d
    cases hbeq : c == d with
    | false => exact Bool.and_false _
    | true => rw [beq_iff_hashed_eq.mp hbeq, beq_self_eq_true, Bool.true_and]
  have hinsert : insertHashed hash
      = fun set c => if set.contains c then set else set ++ [c] := by
    funext set c
    simp only [insertHashed, hfound, List.contains_eq_any_beq]
  rw [hashSet, distinct, hinsert]

end

/-- Whether a set has exactly one of the columns that are the same. -/
structure Represents (same : Column → Column → Prop) (columns set : List Column) : Prop where
  taken : ∀ d ∈ set, d ∈ columns
  kept : ∀ c ∈ columns, ∃ d ∈ set, same c d
  apart : set.Pairwise fun c d => ¬ same c d

section

variable {same same' : Column → Column → Prop} {seen columns set : List Column}

theorem Represents.congr (h : Represents same columns set)
    (hsame : ∀ c ∈ columns, ∀ d ∈ columns, same c d ↔ same' c d) :
    Represents same' columns set := by
  refine ⟨h.taken, fun c hc => ?_, h.apart.imp_of_mem fun hc hd => ?_⟩
  · obtain ⟨d, hd, hcd⟩ := h.kept c hc
    exact ⟨d, hd, (hsame c hc d (h.taken d hd)).mp hcd⟩
  · exact mt (hsame _ (h.taken _ hc) _ (h.taken _ hd)).mpr

/-- One more column is left out if the set has an equal one. -/
theorem Represents.insert (h : Represents (· == ·) seen set) (c : Column) :
    Represents (· == ·) (seen ++ [c]) (if set.contains c then set else set ++ [c]) := by
  rw [List.contains_eq_any_beq]
  by_cases hfound : set.any (c == ·) = true
  · rw [if_pos hfound]
    refine ⟨fun d hd => List.mem_append_left _ (h.taken d hd), fun d hd => ?_, h.apart⟩
    rcases List.mem_append.mp hd with hd | hd
    · exact h.kept d hd
    · rw [List.mem_singleton.mp hd]
      exact List.any_eq_true.mp hfound
  · rw [if_neg hfound]
    refine ⟨fun d hd => ?_, fun d hd => ?_, ?_⟩
    · exact (List.mem_append.mp hd).elim (fun hd => List.mem_append_left _ (h.taken d hd))
        (List.mem_append_right _)
    · rcases List.mem_append.mp hd with hd | hd
      · obtain ⟨e, he, hde⟩ := h.kept d hd
        exact ⟨e, List.mem_append_left _ he, hde⟩
      · exact ⟨d, List.mem_append_right _ hd, beq_iff_hashed_eq.mpr rfl⟩
    · refine List.pairwise_append.mpr ⟨h.apart, List.pairwise_singleton _ _, ?_⟩
      intro d hd e he hde
      obtain rfl := List.mem_singleton.mp he
      exact hfound (List.any_eq_true.mpr
        ⟨d, hd, beq_iff_hashed_eq.mpr (beq_iff_hashed_eq.mp hde).symm⟩)

theorem Represents.foldl (h : Represents (· == ·) seen set) :
    Represents (· == ·) (seen ++ columns)
      (columns.foldl (fun set c => if set.contains c then set else set ++ [c]) set) := by
  induction columns generalizing seen set with
  | nil => rwa [List.append_nil]
  | cons c columns ih =>
      rw [List.append_cons]
      exact ih (h.insert c)

theorem represents_distinct (columns : List Column) :
    Represents (· == ·) columns (distinct columns) := by
  have hempty : Represents (· == ·) [] [] :=
    ⟨fun _ h => absurd h List.not_mem_nil, fun _ h => absurd h List.not_mem_nil, .nil⟩
  have hall : Represents (· == ·) ([] ++ columns) (distinct columns) := hempty.foldl
  rwa [List.nil_append] at hall

end

/-- **Columns are equal if and only if they are declared alike.** Then, if they are bound, they have
the same type and are the same expression; and a hash set of columns, whatever the hash is, has
exactly one of those that are declared alike. -/
theorem equality_faithful {a b : Column} (ha : a.IsDeclared) (hb : b.IsDeclared) :
    ((a == b) = true ↔ SameDeclaration a b)
      ∧ ((a == b) = true → a.isBound = true →
          a.type = b.type ∧ ∃ e, a.toExpr = .ok e ∧ b.toExpr = .ok e)
      ∧ ∀ (hash : NativeType × String × Bool × Option Binding → UInt64) (columns : List Column),
          (∀ c ∈ columns, c.IsDeclared) →
            Represents SameDeclaration columns (hashSet hash columns) := by
  refine ⟨beq_iff_sameDeclaration ha hb, fun heq hbound => ?_, fun hash columns hall => ?_⟩
  · have hsame := (beq_iff_sameDeclaration ha hb).mp heq
    obtain ⟨binding, hbinding⟩ := Option.isSome_iff_exists.mp hbound
    refine ⟨hsame.type_eq, .column ⟨binding.table, binding.name, a.type⟩, ?_, ?_⟩
    · rw [toExpr, toRef, hbinding]
      rfl
    · rw [← hsame.toExpr_eq, toExpr, toRef, hbinding]
      rfl
  · rw [hashSet_eq_distinct]
    exact (represents_distinct columns).congr fun c hc d hd =>
      beq_iff_sameDeclaration (hall c hc) (hall d hd)

/-- A key is told apart from a default that looks like one. -/
theorem equality_faithful_keys :
    let a := ((text.withDefault (.text "a' PRIMARY KEY")).identity).bind "t" "a" none
    let b := ((text.withDefault (.text "a'")).primaryKey).bind "t" "a" none
    a.IsDeclared ∧ b.IsDeclared ∧ (a == b) = false
      ∧ Represents SameDeclaration [a, b, a] (hashSet (fun _ => 0) [a, b, a]) := by
  intro a b
  have hshorthand : IsDeclared text := .shorthand List.mem_cons_self
  have ha : a.IsDeclared := ((hshorthand.withDefault _).identity).bind _ _ _
  have hb : b.IsDeclared := ((hshorthand.withDefault _).primaryKey).bind _ _ _
  have hfaithful := equality_faithful ha hb
  refine ⟨ha, hb, ?_, hfaithful.2.2 _ _ ?_⟩
  · refine Bool.eq_false_iff.mpr fun heq => ?_
    have hkey : false = true := (hfaithful.1.mp heq).isPrimaryKey
    cases hkey
  · intro c hc
    simp only [List.mem_cons, List.not_mem_nil, or_false] at hc
    rcases hc with rfl | rfl | rfl
    · exact ha
    · exact hb
    · exact ha

end Column

end EntityMapper
