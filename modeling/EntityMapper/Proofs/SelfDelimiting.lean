import EntityMapper.Proofs.Literals

/-!
# Quoted texts end themselves

A text that is written into a statement must not reach into what stands after it. Here nothing is
known of the column that the text belongs to: a string literal goes from a quote to the first quote
that stands alone, two quotes in a row are one quote of the content, and a backslash is a character
like any other. Between the items of an array blanks do not count.

Whatever a string literal is read off is a quoted text and something that does not begin with a
quote, and every such text is read. An item of an array is followed by a comma or by the bracket,
and neither is a quote. Therefore an array of texts is read as far as its bracket, whatever the
texts hold and whatever comes after it.
-/

namespace EntityMapper.Sql

/-! ## Reading a string literal -/

/-- Reads a string literal: its content, and what follows it. -/
def readString? : List Char → Option (String × List Char)
  | '\'' :: rest => (readQuoted rest).map fun (content, rest) => (String.ofList content, rest)
  | _ => none

variable {t u rest : List Char}

/-- What is read up to a quote is a text with its quotes doubled. -/
theorem eq_of_readQuoted {s : List Char} (h : readQuoted t = some (s, rest)) :
    t = doubleQuotes s ++ '\'' :: rest ∧ rest.head? ≠ some '\'' := by
  fun_induction readQuoted t generalizing s rest with
  | case1 => cases h
  | case2 t ih =>
      -- two quotes are one that stays inside
      obtain ⟨⟨content, rest'⟩, hread, heq⟩ := Option.bind_eq_some_iff.mp h
      cases heq
      obtain ⟨ht, hhead⟩ := ih hread
      refine ⟨?_, hhead⟩
      rw [doubleQuotes, if_pos rfl, ht]
      rfl
  | case3 t hsingle =>
      cases h
      refine ⟨rfl, fun hhead => ?_⟩
      obtain ⟨rest, rfl⟩ := List.head?_eq_some_iff.mp hhead
      exact hsingle rest rfl
  | case4 c t _ hc ih =>
      obtain ⟨⟨content, rest'⟩, hread, heq⟩ := Option.bind_eq_some_iff.mp h
      cases heq
      obtain ⟨ht, hhead⟩ := ih hread
      refine ⟨?_, hhead⟩
      rw [doubleQuotes, if_neg hc, ht]
      rfl

/-- **Reading undoes quoting and nothing else**: a text is read where it stands between quotes and
no other quote follows. -/
theorem readString?_eq_some_iff {s : String} :
    readString? t = some (s, rest) ↔ t = (quote s).toList ++ rest ∧ rest.head? ≠ some '\'' := by
  constructor
  · intro h
    unfold readString? at h
    split at h
    · obtain ⟨⟨content, rest'⟩, hread, heq⟩ := Option.map_eq_some_iff.mp h
      cases heq
      obtain ⟨ht, hhead⟩ := eq_of_readQuoted hread
      rw [toList_quote_append, String.toList_ofList, ht]
      exact ⟨rfl, hhead⟩
    · cases h
  · intro ⟨ht, hhead⟩
    rw [ht, toList_quote_append, readString?, readQuoted_doubleQuotes _ hhead]
    change some (String.ofList s.toList, rest) = _
    rw [String.ofList_toList]

-- A second literal right behind the first one is read as a part of it.
example : readString? ((quote "a\\").toList ++ (quote "b").toList) = some ("a\\'b", []) := by
  decide

theorem length_lt_of_readString? {s : String} (h : readString? t = some (s, rest)) :
    rest.length < t.length := by
  obtain ⟨ht, -⟩ := readString?_eq_some_iff.mp h
  rw [ht, toList_quote_append, List.length_cons, List.length_append, List.length_cons]
  omega

/-! ## Reading an array of string literals -/

/-- Whether a character counts only between quotes. -/
def isSpace (c : Char) : Bool := [' ', '\t', '\n', '\x0b', '\x0c', '\r'].contains c

/-- A text without the blanks at its beginning. -/
def skipSpace (t : List Char) : List Char := t.dropWhile isSpace

theorem length_skipSpace_le (t : List Char) : (skipSpace t).length ≤ t.length :=
  (List.dropWhile_suffix isSpace).length_le

/-- A literal and the character after it are left behind. -/
theorem length_lt_of_item {s : String} {c : Char} (hs : readString? (skipSpace t) = some (s, u))
    (hu : skipSpace u = c :: rest) : rest.length < t.length := by
  have hstring := length_lt_of_readString? hs
  have ht := length_skipSpace_le t
  have hafter := length_skipSpace_le u
  rw [hu, List.length_cons] at hafter
  omega

/-- Reads string literals with commas between them as far as the bracket that ends them. -/
def readStrings? (t : List Char) : Option (List String × List Char) :=
  match hs : readString? (skipSpace t) with
  | none => none
  | some (s, u) =>
    match hu : skipSpace u with
    | ']' :: rest => some ([s], rest)
    | ',' :: v =>
      have := length_lt_of_item hs hu
      (readStrings? v).map fun (others, rest) => (s :: others, rest)
    | _ => none
termination_by t.length

/-- Reads an array of string literals: the texts in it, and what follows it. -/
def readStringArray? : List Char → Option (List String × List Char)
  | 'A' :: 'R' :: 'R' :: 'A' :: 'Y' :: t =>
    match skipSpace t with
    | '[' :: u => readStrings? u
    | _ => none
  | _ => none

/-- What comes after an item decides how the reading goes on. -/
theorem readStrings?_eq {s : String} (hs : readString? (skipSpace t) = some (s, u)) :
    readStrings? t = match skipSpace u with
      | ']' :: rest => some ([s], rest)
      | ',' :: v => (readStrings? v).map fun (others, rest) => (s :: others, rest)
      | _ => none := by
  rw [readStrings?]
  split
  · rename_i hnone
    rw [hs] at hnone
    cases hnone
  · rename_i hsome
    rw [hs] at hsome
    cases hsome
    split <;> simp only [*]

theorem skipSpace_quote (s : String) (rest : List Char) :
    skipSpace ((quote s).toList ++ rest) = (quote s).toList ++ rest := by
  rw [toList_quote_append]
  rfl

/-- **The texts of an array are read one after the other**, as far as its bracket and no further. -/
theorem readStrings?_literal {first : String} {others : List String}
    (ht : skipSpace t = (quote first).toList
      ++ ((Value.literalTail (others.map .text)).toList ++ ']' :: rest)) :
    readStrings? t = some (first :: others, rest) := by
  induction others generalizing first t with
  | nil =>
      have hread : readString? (skipSpace t) = some (first, ']' :: rest) :=
        readString?_eq_some_iff.mpr ⟨ht, by simp⟩
      exact readStrings?_eq hread
  | cons second others ih =>
      rw [List.map_cons, Value.toList_literalTail_append] at ht
      have hread := readString?_eq_some_iff.mpr ⟨ht, by simp⟩
      have hblank (u : List Char) : skipSpace (' ' :: ((quote second).toList ++ u))
          = (quote second).toList ++ u :=
        (List.dropWhile_cons_of_pos rfl).trans (skipSpace_quote second u)
      rw [readStrings?_eq hread]
      change (readStrings? (' ' :: ((quote second).toList ++ _))).map _ = _
      rw [ih (hblank _)]
      rfl

/-- **Quoted text is self-delimiting.** In front of anything but a quote exactly the quoted text is
read, its content is the text, and what it stands in front of is left; no other text is read like
this. An array of texts is read in front of anything, as far as its bracket, and its items are the
texts in their order. -/
theorem quoted_text_self_delimiting :
    (∀ (s : String) (t rest : List Char), readString? t = some (s, rest)
      ↔ t = (quote s).toList ++ rest ∧ rest.head? ≠ some '\'')
    ∧ ∀ (first : String) (others : List String) (rest : List Char),
      readStringArray? ((Value.array ((first :: others).map .text)).literal.toList ++ rest)
        = some (first :: others, rest) := by
  refine ⟨fun s t rest => readString?_eq_some_iff, fun first others rest => ?_⟩
  rw [List.map_cons, Value.toList_literal_array_append]
  exact readStrings?_literal (skipSpace_quote _ _)

end EntityMapper.Sql
