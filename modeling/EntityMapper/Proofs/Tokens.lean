import EntityMapper.Sql.Identifier
import EntityMapper.Sql.Binder

/-!
# Reading statements back: tokens

A statement is built as text, and what it means is what the server reads in that text. The reader
here follows the server's lexical rules as far as statements of this library go: names, numbers and
placeholders are as long as they can be, so are operators, and brackets and commas stand alone. A
name with its table is one token, so that a table may be called like a keyword.

The main fact is `tokens_append`: if no token reaches over the seam, two texts are read one after
the other. Everything that is rendered is put together at such seams.
-/

namespace EntityMapper.Sql

/-- A token of a statement. -/
inductive Token where
  /-- A keyword, or a name by itself. -/
  | word (s : String)
  | column (table name : String)
  | number (n : Nat)
  /-- The place of the parameter with a number. -/
  | placeholder (n : Nat)
  /-- An operator, a bracket or a comma. -/
  | mark (s : String)
deriving DecidableEq, Repr

/-- Whether a character can stand in a name, with or without table, in a number or in a
placeholder. -/
def isNameChar (c : Char) : Bool := isIdentifierRest c || c == '.'

/-- The characters that operators are made of. -/
def operatorChars : List Char :=
  ['+', '-', '*', '/', '<', '>', '=', '~', '!', '@', '#', '%', '^', '&', '|', '?', '\x60']

/-- Whether a character can stand in an operator. -/
def isOperatorChar (c : Char) : Bool := operatorChars.contains c

/-- Whether a character is a sign of a number. -/
def isSign (c : Char) : Bool := c == '+' || c == '-'

/-- Whether a character goes on with the token that the character before it belongs to. A sign does
not go on with an operator; only two minus signs belong together, as they begin a comment. -/
def adjoins (c d : Char) : Bool :=
  (isNameChar c && isNameChar d) || (isOperatorChar c && isOperatorChar d && (!isSign d || c == d))

/-- Puts a character before lexemes: into the first one if that goes on with it. -/
def consLexeme (c : Char) : List (List Char) → List (List Char)
  | (d :: w) :: rest => if adjoins c d then (c :: d :: w) :: rest else [c] :: (d :: w) :: rest
  | rest => [c] :: rest

/-- The text cut into pieces that are as long as they can be; a blank is a piece by itself. -/
def lexemes (s : List Char) : List (List Char) := s.foldr consLexeme []

/-- Whether there are characters and all are digits. -/
def isDigits (w : List Char) : Bool := !w.isEmpty && w.all Char.isDigit

/-- The operators, brackets and commas that are read. -/
def marks : List String :=
  ["(", ")", ",", "=", "<>", "!=", "<", "<=", ">", ">=", "+", "-", "*", "/", "%", "^"]

/-- The token that a lexeme is. -/
def readLexeme (w : List Char) : Option Token :=
  if isDigits w then some (.number (Nat.ofDigitChars 10 w 0))
  else if isIdentifierChars w then some (.word (.ofList w))
  else if w.head? = some '$' ∧ isDigits w.tail then
    some (.placeholder (Nat.ofDigitChars 10 w.tail 0))
  else if isIdentifierChars (w.takeWhile (· != '.'))
      ∧ isIdentifierChars (w.dropWhile (· != '.')).tail then
    some (.column (.ofList (w.takeWhile (· != '.'))) (.ofList (w.dropWhile (· != '.')).tail))
  else if String.ofList w ∈ marks then some (.mark (.ofList w))
  else none

/-- The tokens of a text; none if a lexeme is no token. -/
def tokens (s : List Char) : Option (List Token) :=
  ((lexemes s).filter (· != [' '])).mapM readLexeme

example : tokens "t.a <= -b.c IN ($1,$12)".toList = some
    [.column "t" "a", .mark "<=", .mark "-", .column "b" "c", .word "IN", .mark "(", .placeholder 1,
      .mark ",", .placeholder 12, .mark ")"] := by
  decide

/-! ## Lexemes end where nothing goes on -/

/-- Whether no token reaches from the first text into the second. -/
def Separated (a b : List Char) : Prop :=
  ∀ c ∈ a.getLast?, ∀ d ∈ b.head?, adjoins c d = false

/-- Whether a character is a token by itself or none, so that no token reaches over it. -/
def isBreak (c : Char) : Bool := !isNameChar c && !isOperatorChar c

theorem adjoins_break_left {c d : Char} (h : isBreak c = true) : adjoins c d = false := by
  simp only [isBreak, Bool.and_eq_true, Bool.not_eq_true'] at h
  simp [adjoins, h.1, h.2]

theorem adjoins_break_right {c d : Char} (h : isBreak d = true) : adjoins c d = false := by
  simp only [isBreak, Bool.and_eq_true, Bool.not_eq_true'] at h
  simp [adjoins, h.1, h.2]

/-- Whether a text begins with a character that no token reaches over, or is empty. -/
def StartsFree (s : List Char) : Prop := ∀ c ∈ s.head?, isBreak c = true

/-- Whether a text ends with a character that no token reaches over, or is empty. -/
def EndsFree (s : List Char) : Prop := ∀ c ∈ s.getLast?, isBreak c = true

theorem startsFree_iff {s : List Char} : s.head?.all isBreak = true ↔ StartsFree s := by
  unfold StartsFree
  cases s.head? <;> simp

theorem endsFree_iff {s : List Char} : s.getLast?.all isBreak = true ↔ EndsFree s := by
  unfold EndsFree
  cases s.getLast? <;> simp

-- Decided on the one character they look at: to decide them as they are stated is to go through
-- all characters.
instance (s : List Char) : Decidable (StartsFree s) :=
  decidable_of_decidable_of_iff startsFree_iff

instance (s : List Char) : Decidable (EndsFree s) :=
  decidable_of_decidable_of_iff endsFree_iff

theorem separated_of_startsFree {a b : List Char} (h : StartsFree b) : Separated a b :=
  fun _ _ _ hd => adjoins_break_right (h _ hd)

theorem separated_of_endsFree {a b : List Char} (h : EndsFree a) : Separated a b :=
  fun _ hc _ _ => adjoins_break_left (h _ hc)

/-- What ends at a seam does so behind anything. -/
theorem endsFree_append {b : List Char} (hb : EndsFree b) (hne : b ≠ []) (a : List Char) :
    EndsFree (a ++ b) := by
  obtain ⟨d, hd⟩ := Option.isSome_iff_exists.mp (List.getLast?_isSome.mpr hne)
  intro c hc
  rw [List.getLast?_append, hd] at hc
  exact hb c (hd.trans hc)

/-- The first lexeme begins with the first character. -/
theorem lexemes_cons (c : Char) (s : List Char) :
    ∃ w rest, lexemes (c :: s) = (c :: w) :: rest := by
  change ∃ w rest, consLexeme c (lexemes s) = (c :: w) :: rest
  unfold consLexeme
  split
  · split
    · exact ⟨_, _, rfl⟩
    · exact ⟨_, _, rfl⟩
  · exact ⟨_, _, rfl⟩

/-- A character that the next one does not go on with is a lexeme of its own. -/
theorem lexemes_cons_separated {c : Char} {s : List Char} (h : Separated [c] s) :
    lexemes (c :: s) = [c] :: lexemes s := by
  cases s with
  | nil => rfl
  | cons d s =>
      obtain ⟨w, rest, hl⟩ := lexemes_cons d s
      have hseam : adjoins c d = false := h c rfl d rfl
      change consLexeme c (lexemes (d :: s)) = [c] :: lexemes (d :: s)
      rw [hl, consLexeme, if_neg (by simp [hseam])]

/-- **Texts are cut apart at every seam that no token reaches over.** -/
theorem lexemes_append {a b : List Char} (h : Separated a b) :
    lexemes (a ++ b) = lexemes a ++ lexemes b := by
  induction a with
  | nil => rfl
  | cons c a ih =>
      cases a with
      | nil => exact lexemes_cons_separated h
      | cons d a =>
          -- there is a first lexeme before the seam, and only that one can be lengthened
          obtain ⟨w, rest, hl⟩ := lexemes_cons d a
          have hrest : lexemes (d :: a ++ b) = (d :: w) :: (rest ++ lexemes b) := by
            rw [ih (by simpa [Separated] using h), hl]
            rfl
          change consLexeme c (lexemes (d :: a ++ b)) = consLexeme c (lexemes (d :: a)) ++ lexemes b
          rw [hrest, hl, consLexeme, consLexeme]
          by_cases hseam : adjoins c d = true
          · rw [if_pos hseam, if_pos hseam]
            rfl
          · rw [if_neg hseam, if_neg hseam]
            rfl

/-- Characters that go on with each other are one lexeme. -/
theorem lexemes_run {c : Char} {w : List Char} (h : ∀ d ∈ c :: w, isNameChar d = true) :
    lexemes (c :: w) = [c :: w] := by
  induction w generalizing c with
  | nil => rfl
  | cons d w ih =>
      have hrest := ih (c := d) fun e he => h e (List.mem_cons_of_mem _ he)
      have hc : isNameChar c = true := h c (by simp)
      have hd : isNameChar d = true := h d (by simp)
      change consLexeme c (lexemes (d :: w)) = _
      rw [hrest]
      simp [consLexeme, adjoins, hc, hd]

/-- **Texts are read one after the other at every seam that no token reaches over.** -/
theorem tokens_append {a b : List Char} (h : Separated a b) {ts : List Token}
    (ha : tokens a = some ts) : tokens (a ++ b) = (tokens b).map (ts ++ ·) := by
  unfold tokens at ha ⊢
  rw [lexemes_append h, List.filter_append, List.mapM_append, ha]
  cases ((lexemes b).filter (· != [' '])).mapM readLexeme <;> rfl

/-! ## Names and placeholders are read as such -/

theorem not_isDigit_of_isIdentifierStart {c : Char} (h : isIdentifierStart c = true) :
    c.isDigit = false := by
  change ((decide (c.val ≥ 'A'.val ∧ c.val ≤ 'Z'.val)
    || decide (c.val ≥ 'a'.val) && decide (c.val ≤ 'z'.val)) || c == '_') = true at h
  simp only [Bool.or_eq_true, Bool.and_eq_true, decide_eq_true_eq, beq_iff_eq] at h
  simp only [Char.isDigit, Bool.and_eq_false_iff, decide_eq_false_iff_not]
  rcases h with (h | h) | rfl
  · right; simp only [ge_iff_le, UInt32.le_iff_toNat_le] at h ⊢; simp at h ⊢; omega
  · right; simp only [ge_iff_le, UInt32.le_iff_toNat_le] at h ⊢; simp at h ⊢; omega
  · decide

theorem isIdentifierRest_of_isIdentifierStart {c : Char} (h : isIdentifierStart c = true) :
    isIdentifierRest c = true := by
  simp only [isIdentifierStart, Bool.or_eq_true, beq_iff_eq] at h
  rcases h with h | rfl
  · simp [isIdentifierRest, Char.isAlphanum, h]
  · decide

/-- An identifier begins with a letter or an underscore, and all of it can stand in names. -/
theorem isIdentifierChars_cons {w : List Char} (h : isIdentifierChars w = true) :
    ∃ c rest, w = c :: rest ∧ isIdentifierStart c = true ∧ ∀ d ∈ w, isIdentifierRest d = true := by
  cases w with
  | nil => cases h
  | cons c rest =>
      simp only [isIdentifierChars, Bool.and_eq_true, List.all_eq_true] at h
      refine ⟨c, rest, rfl, h.1, ?_⟩
      intro d hd
      rcases List.mem_cons.mp hd with rfl | hd
      · exact isIdentifierRest_of_isIdentifierStart h.1
      · exact h.2 d hd

theorem isNameChar_of_isIdentifierRest {c : Char} (h : isIdentifierRest c = true) :
    isNameChar c = true := by
  simp [isNameChar, h]

/-- No character stands both in names and in operators. -/
theorem isOperatorChar_of_isNameChar {c : Char} (h : isNameChar c = true) :
    isOperatorChar c = false := by
  refine Bool.eq_false_iff.mpr fun hop => ?_
  have hall : operatorChars.all (fun d => !isNameChar d) = true := by decide
  have hc := List.all_eq_true.mp hall c (List.contains_iff_mem.mp hop)
  simp [h] at hc

/-- An operator does not go on with a name. -/
theorem adjoins_name_operator {c d : Char} (hc : isNameChar c = true)
    (hd : isOperatorChar d = true) : adjoins c d = false := by
  have hn : isNameChar d = false :=
    Bool.eq_false_iff.mpr fun hn => by simp [isOperatorChar_of_isNameChar hn] at hd
  simp [adjoins, hn, isOperatorChar_of_isNameChar hc]

/-- A name does not go on with an operator. -/
theorem adjoins_operator_name {c d : Char} (hc : isOperatorChar c = true)
    (hd : isNameChar d = true) : adjoins c d = false := by
  have hn : isNameChar c = false :=
    Bool.eq_false_iff.mpr fun hn => by simp [isOperatorChar_of_isNameChar hn] at hc
  simp [adjoins, hn, isOperatorChar_of_isNameChar hd]

/-- A run of name characters is read as the one lexeme that it is. -/
theorem tokens_run {w : List Char} (hne : w ≠ []) (h : ∀ d ∈ w, isNameChar d = true) :
    tokens w = (readLexeme w).map ([·]) := by
  obtain ⟨c, rest, rfl⟩ := List.exists_cons_of_ne_nil hne
  have hc : c ≠ ' ' := by
    intro hc
    have := h c (List.mem_cons_self ..)
    rw [hc] at this
    exact absurd this (by decide)
  have hfilter : [c :: rest].filter (· != [' ']) = [c :: rest] := by simp [hc]
  unfold tokens
  rw [lexemes_run h, hfilter]
  cases hr : readLexeme (c :: rest) <;> simp [hr]

theorem readLexeme_identifier {w : List Char} (h : isIdentifierChars w = true) :
    readLexeme w = some (.word (.ofList w)) := by
  obtain ⟨c, rest, rfl, hc, -⟩ := isIdentifierChars_cons h
  have hd : isDigits (c :: rest) = false := by
    simp [isDigits, not_isDigit_of_isIdentifierStart hc]
  simp [readLexeme, hd, h]

/-- The dot ends the table, as no identifier holds one. -/
theorem ne_dot_of_mem {w : List Char} (h : isIdentifierChars w = true) :
    ∀ d ∈ w, (d != '.') = true := by
  obtain ⟨c, rest, -, -, hall⟩ := isIdentifierChars_cons h
  intro d hd
  refine bne_iff_ne.mpr ?_
  rintro rfl
  exact absurd (hall '.' hd) (by decide)

theorem readLexeme_qualified {table name : List Char} (ht : isIdentifierChars table = true)
    (hn : isIdentifierChars name = true) :
    readLexeme (table ++ '.' :: name) = some (.column (.ofList table) (.ofList name)) := by
  have hdot := ne_dot_of_mem ht
  have htake : (table ++ '.' :: name).takeWhile (· != '.') = table := by
    rw [List.takeWhile_append_of_pos hdot]
    simp
  have hdrop : (table ++ '.' :: name).dropWhile (· != '.') = '.' :: name := by
    rw [List.dropWhile_append_of_pos hdot]
    simp
  obtain ⟨c, rest, rfl, hc, -⟩ := isIdentifierChars_cons ht
  -- it is no number, no word and no placeholder: it begins like a name, and it holds a dot
  have hdigits : isDigits (c :: rest ++ '.' :: name) = false := by
    simp [isDigits, not_isDigit_of_isIdentifierStart hc]
  have hword : isIdentifierChars (c :: rest ++ '.' :: name) = false := by
    simp [isIdentifierChars, show isIdentifierRest '.' = false by decide]
  have hdollar : (c :: rest ++ '.' :: name).head? ≠ some '$' := by
    intro h
    rw [Option.some.inj h] at hc
    exact absurd hc (by decide)
  unfold readLexeme
  rw [htake, hdrop, hdigits, hword, if_neg (by simp), if_neg (by simp),
    if_neg fun h => hdollar h.1, if_pos ⟨ht, hn⟩]
  rfl

theorem isNameChar_of_mem {w : List Char} (h : isIdentifierChars w = true) :
    ∀ d ∈ w, isNameChar d = true := by
  obtain ⟨c, rest, -, -, hall⟩ := isIdentifierChars_cons h
  exact fun d hd => isNameChar_of_isIdentifierRest (hall d hd)

/-- An identifier is read as a word. -/
theorem tokens_identifier {s : String} (h : isIdentifier s = true) :
    tokens s.toList = some [.word s] := by
  obtain ⟨c, rest, hs, -, -⟩ := isIdentifierChars_cons h
  rw [tokens_run (by simp [hs]) (isNameChar_of_mem h), readLexeme_identifier h]
  simp

/-- Two identifiers with a dot between them are read as a column. -/
theorem tokens_qualified {table name : String} (ht : isIdentifier table = true)
    (hn : isIdentifier name = true) :
    tokens (table.toList ++ '.' :: name.toList) = some [.column table name] := by
  have hrun : ∀ d ∈ table.toList ++ '.' :: name.toList, isNameChar d = true := by
    intro d hd
    rcases List.mem_append.mp hd with h | h
    · exact isNameChar_of_mem ht d h
    · rcases List.mem_cons.mp h with rfl | h
      · decide
      · exact isNameChar_of_mem hn d h
  rw [tokens_run (by simp) hrun, readLexeme_qualified ht hn]
  simp

theorem toList_placeholder (n : Nat) : (placeholder n).toList = '$' :: Nat.toDigits 10 n := by
  simp [placeholder]

theorem isDigit_of_mem_toDigits {n : Nat} {c : Char} (h : c ∈ Nat.toDigits 10 n) :
    c.isDigit = true :=
  Nat.isDigit_of_mem_toDigits (by decide) (by decide) h

/-- The characters of a placeholder run on like those of a name. -/
theorem isNameChar_of_mem_placeholder {n : Nat} {c : Char} (h : c ∈ (placeholder n).toList) :
    isNameChar c = true := by
  rw [toList_placeholder] at h
  rcases List.mem_cons.mp h with rfl | h
  · decide
  · simp [isNameChar, isIdentifierRest, Char.isAlphanum, isDigit_of_mem_toDigits h]

theorem isDigits_toDigits (n : Nat) : isDigits (Nat.toDigits 10 n) = true := by
  simp only [isDigits, List.all_eq_true.mpr fun _ => isDigit_of_mem_toDigits]
  simp

/-- A placeholder is read with its number. -/
theorem tokens_placeholder (n : Nat) :
    tokens (placeholder n).toList = some [.placeholder n] := by
  rw [tokens_run (by simp [toList_placeholder]) fun _ => isNameChar_of_mem_placeholder,
    toList_placeholder]
  simp [readLexeme, isDigits_toDigits, Nat.ofDigitChars_ten_toDigits, isIdentifierChars,
    show isIdentifierStart '$' = false by decide,
    show isDigits ('$' :: Nat.toDigits 10 n) = false by simp [isDigits]]

end EntityMapper.Sql
