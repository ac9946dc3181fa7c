import EntityMapper.Proofs.Tokens
import EntityMapper.Value.Literal

/-!
# Characters of numbers

Integers and doubles are written without quotes, so what stands behind the text of a number must not
run on like one. All that is needed for this is which characters can stand in it.
-/

namespace EntityMapper

/-! ## Runs -/

/-- A run of characters ends where a text begins that does not go on with it. -/
theorem span_append {p : Char → Bool} {t rest : List Char} (ht : ∀ c ∈ t, p c = true)
    (hrest : ∀ c ∈ rest.head?, p c = false) :
    (t ++ rest).takeWhile p = t ∧ (t ++ rest).dropWhile p = rest := by
  rw [List.takeWhile_append_of_pos ht, List.dropWhile_append_of_pos ht]
  cases rest with
  | nil => exact ⟨List.append_nil t, rfl⟩
  | cons c rest =>
      have hc : ¬ p c = true := by
        rw [hrest c rfl]
        exact Bool.false_ne_true
      rw [List.takeWhile_cons_of_neg hc, List.dropWhile_cons_of_neg hc]
      exact ⟨List.append_nil t, rfl⟩

theorem takeWhile_append_of_head {p : Char → Bool} {rest : List Char}
    (h : ∀ c ∈ rest.head?, p c = false) (t : List Char) :
    (t ++ rest).takeWhile p = t.takeWhile p := by
  induction t with
  | nil => exact (span_append (fun _ hc => absurd hc List.not_mem_nil) h).1
  | cons c t ih => rw [List.cons_append, List.takeWhile_cons, List.takeWhile_cons, ih]

/-! ## Integers -/

/-- Whether a character can stand in the text of a number, or of what is no number. -/
def isNumeralChar (c : Char) : Bool :=
  c.isDigit || ['+', '-', '.', 'e', 'i', 'n', 'f', 'N', 'a'].contains c

def IsNumeral (t : List Char) : Prop := ∀ c ∈ t, isNumeralChar c = true

instance (t : List Char) : Decidable (IsNumeral t) :=
  decidable_of_iff (t.all isNumeralChar = true) List.all_eq_true

section

variable {t u : List Char}

theorem IsNumeral.append (ht : IsNumeral t) (hu : IsNumeral u) : IsNumeral (t ++ u) :=
  List.forall_mem_append.mpr ⟨ht, hu⟩

theorem IsNumeral.cons {c : Char} (hc : isNumeralChar c = true) (ht : IsNumeral t) :
    IsNumeral (c :: t) := List.forall_mem_cons.mpr ⟨hc, ht⟩

theorem IsNumeral.take (ht : IsNumeral t) (n : Nat) : IsNumeral (t.take n) :=
  fun c hc => ht c (List.mem_of_mem_take hc)

theorem IsNumeral.drop (ht : IsNumeral t) (n : Nat) : IsNumeral (t.drop n) :=
  fun c hc => ht c (List.mem_of_mem_drop hc)

end

theorem isNumeral_toDigits (n : Nat) : IsNumeral (Nat.toDigits 10 n) := by
  intro c hc
  rw [isNumeralChar, Sql.isDigit_of_mem_toDigits hc, Bool.true_or]

theorem toList_toString_nat (n : Nat) : (toString n).toList = Nat.toDigits 10 n := by simp

theorem toList_toString_negSucc (n : Nat) :
    (toString (Int.negSucc n)).toList = '-' :: Nat.toDigits 10 (n + 1) := by
  change ("-" ++ toString (n + 1)).toList = _
  rw [String.toList_append, toList_toString_nat]
  rfl

/-- An integer is written with digits, and with a sign before them. -/
theorem mem_toString_int {n : Int} {c : Char} (h : c ∈ (toString n).toList) :
    c.isDigit = true ∨ c = '-' := by
  cases n with
  | ofNat n =>
      rw [show (toString (Int.ofNat n)).toList = Nat.toDigits 10 n from toList_toString_nat n] at h
      exact .inl (Sql.isDigit_of_mem_toDigits h)
  | negSucc n =>
      rw [toList_toString_negSucc, List.mem_cons] at h
      exact h.symm.imp_left Sql.isDigit_of_mem_toDigits

/-- The integer that digits, or a sign and digits, are the text of. -/
def intOfChars : List Char → Int
  | '-' :: digits => -(Nat.ofDigitChars 10 digits 0)
  | digits => Nat.ofDigitChars 10 digits 0

/-- The text of an integer is not empty and gives the integer again. -/
theorem intOfChars_toString (n : Int) :
    (toString n).toList ≠ [] ∧ intOfChars (toString n).toList = n := by
  cases n with
  | ofNat n =>
      rw [show (toString (Int.ofNat n)).toList = Nat.toDigits 10 n from toList_toString_nat n]
      refine ⟨Nat.toDigits_ne_nil, ?_⟩
      rw [intOfChars, Nat.ofDigitChars_ten_toDigits]
      · rfl
      · intro digits heq
        have hdigit : '-'.isDigit = true :=
          Sql.isDigit_of_mem_toDigits (n := n) (heq ▸ List.mem_cons_self)
        cases hdigit
  | negSucc n =>
      rw [toList_toString_negSucc, intOfChars, Nat.ofDigitChars_ten_toDigits]
      exact ⟨List.cons_ne_nil _ _, rfl⟩

theorem isNumeral_toString_int (n : Int) : IsNumeral (toString n).toList := by
  intro c hc
  rcases mem_toString_int hc with h | rfl
  · rw [isNumeralChar, h, Bool.true_or]
  · decide

/-! ## Doubles -/

namespace Number

theorem isNumeral_zeros (n : Nat) : IsNumeral (List.replicate n '0') := by
  intro c hc
  rw [List.eq_of_mem_replicate hc]
  decide

theorem isNumeral_positionalText (l : Layout) {digits : List Char} (h : IsNumeral digits)
    (leading : Int) : IsNumeral (l.positionalText digits leading) := by
  unfold Layout.positionalText
  dsimp only
  split
  · exact (IsNumeral.cons (by decide) (.cons (by decide) (isNumeral_zeros _))).append h
  · split
    · refine (h.append (isNumeral_zeros _)).append ?_
      split <;> decide
    · exact (h.take _).append (.cons (by decide) (h.drop _))

theorem isNumeral_exponentText (l : Layout) {digits : List Char} (h : IsNumeral digits)
    (leading : Int) : IsNumeral (l.exponentText digits leading) := by
  have hfraction : IsNumeral (if (digits.drop 1).isEmpty then [] else '.' :: digits.drop 1) := by
    split
    · decide
    · exact .cons (by decide) (h.drop 1)
  have hsign :
      IsNumeral (if leading < 0 then ['-'] else if l.signsExponent then ['+'] else []) := by
    split
    · decide
    · split <;> decide
  exact (((h.take 1).append hfraction).append (.cons (by decide) hsign)).append
    (isNumeral_toDigits _)

/-- The text of a double has digits, points, signs and a few letters only. -/
theorem isNumeral_text (l : Layout) (x : Binary64) : IsNumeral (x.text l).toList := by
  unfold Binary64.text
  dsimp only
  split
  · decide
  · rw [String.toList_ofList]
    refine IsNumeral.append (by split <;> decide) ?_
    split
    · decide
    · split
      · exact isNumeral_positionalText l (by decide) 0
      · unfold Layout.magnitudeText
        dsimp only
        split
        · exact isNumeral_positionalText l (isNumeral_toDigits _) _
        · exact isNumeral_exponentText l (isNumeral_toDigits _) _

end Number

end EntityMapper
