import EntityMapper.Proofs.Expressions
import Mathlib.Data.List.Basic

/-!
# The places of parameters

A placeholder is a token of its own: a dollar sign with digits is one unless it is part of a name.
`replaced` puts something in the place of each placeholder of a text, and something for each other
character, and looks at nothing but the text. It says what placeholders there are, what a text is
with other numbers, and what it is with the parameters put in.

The main fact is `Expr.placed_template`. The only places in the text of a template are those of its
values, unless a column was bound by hand to a name that reads like a placeholder. Names need not be
identifiers for that.
-/

namespace EntityMapper

namespace Sql

/-! ## Placeholders in a text -/

/-- Whether a lexeme is a placeholder: a dollar sign and digits, and nothing else. -/
def isPlaceholder (w : List Char) : Bool := w.head? == some '$' && isDigits w.tail

/-- The number of a placeholder. -/
def placeholderNumber (w : List Char) : Nat := Nat.ofDigitChars 10 w.tail 0

/-- Whether no placeholder is among the lexemes of a text. -/
def LacksPlaceholder (s : String) : Prop := ∀ w ∈ lexemes s.toList, isPlaceholder w = false

instance (s : String) : Decidable (LacksPlaceholder s) :=
  inferInstanceAs (Decidable (∀ w ∈ lexemes s.toList, isPlaceholder w = false))

section

variable {α : Type} (plain : Char → List α) (place : Nat → List α)

/-- What a lexeme is replaced with. -/
def replacedLexeme (w : List Char) : List α :=
  if isPlaceholder w then place (placeholderNumber w) else w.flatMap plain

/-- A text with `place` put for the numbers of its placeholders and `plain` for all characters that
are not of a placeholder. -/
def replaced (s : List Char) : List α := (lexemes s).flatMap (replacedLexeme plain place)

variable {plain place}

theorem flatten_consLexeme (c : Char) (ws : List (List Char)) :
    (consLexeme c ws).flatten = c :: ws.flatten := by
  unfold consLexeme
  split
  · split <;> rfl
  · rfl

theorem flatten_lexemes (s : List Char) : (lexemes s).flatten = s := by
  induction s with
  | nil => rfl
  | cons c s ih => exact (flatten_consLexeme c (lexemes s)).trans (congrArg (c :: ·) ih)

theorem replaced_of_lacks {s : String} (h : LacksPlaceholder s) :
    replaced plain place s.toList = s.toList.flatMap plain := by
  have hplain : ∀ w ∈ lexemes s.toList, replacedLexeme plain place w = w.flatMap plain := by
    intro w hw
    rw [replacedLexeme, h w hw]
    rfl
  calc (lexemes s.toList).flatMap (replacedLexeme plain place)
      = (lexemes s.toList).flatMap fun w => (id w).flatMap plain := List.flatMap_congr hplain
    _ = s.toList.flatMap plain := by
        rw [← List.flatMap_assoc, List.flatMap_id, flatten_lexemes]

theorem lexemes_placeholder (n : Nat) :
    lexemes (placeholder n).toList = [(placeholder n).toList] := by
  have hnames : ∀ d ∈ (placeholder n).toList, isNameChar d = true :=
    fun _ => isNameChar_of_mem_placeholder
  rw [toList_placeholder] at hnames ⊢
  exact lexemes_run hnames

theorem isPlaceholder_placeholder (n : Nat) : isPlaceholder (placeholder n).toList = true := by
  rw [toList_placeholder]
  simp [isPlaceholder, isDigits_toDigits]

theorem placeholderNumber_placeholder (n : Nat) :
    placeholderNumber (placeholder n).toList = n := by
  rw [placeholderNumber, toList_placeholder, List.tail_cons, Nat.ofDigitChars_ten_toDigits]

/-- A placeholder is one lexeme, and its number is read back. -/
theorem replaced_placeholder (n : Nat) :
    replaced plain place (placeholder n).toList = place n := by
  rw [replaced, lexemes_placeholder, List.flatMap_singleton, replacedLexeme,
    if_pos (isPlaceholder_placeholder n), placeholderNumber_placeholder]

/-! ## Seams -/

/-- Whether no name reaches from the first text into the second. Operators may, as no placeholder is
in an operator. -/
def NamesApart (a b : List Char) : Prop :=
  ∀ c ∈ a.getLast?, ∀ d ∈ b.head?, isNameChar c = true → isNameChar d = false

theorem isPlaceholder_cons_of_not_name {c : Char} (h : isNameChar c = false) (w : List Char) :
    isPlaceholder (c :: w) = false := by
  have hdollar : c ≠ '$' := by
    rintro rfl
    exact absurd h (by decide)
  simp [isPlaceholder, hdollar]

theorem isNameChar_of_adjoins {c d : Char} (hc : isNameChar c = false)
    (h : adjoins c d = true) : isNameChar d = false := by
  refine Bool.eq_false_iff.mpr fun hd => ?_
  simp [adjoins, hc, isOperatorChar_of_isNameChar hd] at h

/-- A character that is in no name is no part of a placeholder. -/
theorem replaced_cons_of_not_name {c : Char} (h : isNameChar c = false) (s : List Char) :
    replaced plain place (c :: s) = plain c ++ replaced plain place s := by
  have hsingle (w : List Char) :
      replacedLexeme plain place (c :: w) = plain c ++ w.flatMap plain := by
    rw [replacedLexeme, isPlaceholder_cons_of_not_name h]
    rfl
  cases s with
  | nil => exact (List.append_nil _).trans (hsingle [])
  | cons d s =>
      obtain ⟨w, rest, hl⟩ := lexemes_cons d s
      have hfirst : lexemes (c :: d :: s) = consLexeme c ((d :: w) :: rest) :=
        congrArg (consLexeme c) hl
      rw [replaced, replaced, hfirst, hl, consLexeme]
      split
      · -- an operator gets longer
        rename_i hadjoins
        have hd := isPlaceholder_cons_of_not_name (isNameChar_of_adjoins h hadjoins) w
        rw [List.flatMap_cons, List.flatMap_cons, hsingle, replacedLexeme, hd, List.append_assoc]
        rfl
      · rw [List.flatMap_cons, hsingle, List.flatMap_nil, List.append_nil]

theorem replaced_append_of_separated {a b : List Char} (h : Separated a b) :
    replaced plain place (a ++ b) = replaced plain place a ++ replaced plain place b := by
  rw [replaced, lexemes_append h, List.flatMap_append]
  rfl

theorem separated_of_name {a b : List Char} (ha : ∀ c ∈ a, isNameChar c = true)
    (hb : ∀ d ∈ b.head?, isNameChar d = false) : Separated a b := by
  intro c hc d hd
  have hname := ha c (List.mem_of_mem_getLast? hc)
  simp [adjoins, hname, hb d hd, isOperatorChar_of_isNameChar hname]

theorem NamesApart.of_append {u v b : List Char} {c : Char} (h : NamesApart (u ++ c :: v) b) :
    NamesApart v b := by
  intro d hd
  refine h d ?_
  rw [List.getLast?_append, List.getLast?_cons, hd]
  rfl

/-- **Placeholders are replaced apart on both sides of a seam that no name reaches over.** -/
theorem replaced_append {a b : List Char} (h : NamesApart a b) :
    replaced plain place (a ++ b) = replaced plain place a ++ replaced plain place b := by
  -- up to the first character that is in no name, and then behind it
  cases hfind : a.find? (!isNameChar ·) with
  | none =>
      have hnames : ∀ c ∈ a, isNameChar c = true := by simpa using hfind
      cases hlast : a.getLast? with
      | none => rw [List.getLast?_eq_none_iff.mp hlast]; rfl
      | some c =>
          have hc := hnames c (List.mem_of_mem_getLast? hlast)
          exact replaced_append_of_separated
            (separated_of_name hnames fun d hd => h c hlast d hd hc)
  | some c =>
      obtain ⟨hc, u, v, ha, hu⟩ := List.find?_eq_some_iff_append.mp hfind
      have hshorter : v.length < a.length := by
        rw [ha, List.length_append, List.length_cons]
        omega
      rw [ha] at h ⊢
      have hnames : ∀ d ∈ u, isNameChar d = true := by simpa using hu
      have hcut (s : List Char) : replaced plain place (u ++ c :: s)
          = replaced plain place u ++ (plain c ++ replaced plain place s) := by
        have hc : isNameChar c = false := by simpa using hc
        have hseparated := separated_of_name (b := c :: s) hnames fun d hd => by
          cases hd
          exact hc
        rw [replaced_append_of_separated hseparated, replaced_cons_of_not_name hc]
      have hrest := replaced_append h.of_append
      rw [List.append_assoc, List.cons_append, hcut, hcut, hrest, List.append_assoc,
        List.append_assoc]
termination_by a.length
decreasing_by exact hshorter

/-- What ends at a seam ends in no name. -/
theorem EndsFree.apart {a : List Char} (h : EndsFree a) (b : List Char) : NamesApart a b := by
  intro c hc d _ hname
  have hbreak := h c hc
  simp [isBreak, hname] at hbreak

end

/-! ## Texts without placeholders -/

theorem exists_of_mapM {α β : Type} {f : α → Option β} {as : List α} {bs : List β}
    (h : as.mapM f = some bs) : ∀ a ∈ as, ∃ b ∈ bs, f a = some b := by
  induction as generalizing bs with
  | nil => intro a ha; cases ha
  | cons a as ih =>
      rw [List.mapM_cons] at h
      obtain ⟨b, hb, h⟩ := Option.bind_eq_some_iff.mp h
      obtain ⟨rest, hrest, h⟩ := Option.bind_eq_some_iff.mp h
      cases h
      intro a' ha'
      rcases List.mem_cons.mp ha' with rfl | ha'
      · exact ⟨b, List.mem_cons_self, hb⟩
      · obtain ⟨b', hmem, hb'⟩ := ih hrest a' ha'
        exact ⟨b', List.mem_cons_of_mem _ hmem, hb'⟩

theorem readLexeme_of_isPlaceholder {w : List Char} (h : isPlaceholder w = true) :
    readLexeme w = some (.placeholder (Nat.ofDigitChars 10 w.tail 0)) := by
  cases w with
  | nil => cases h
  | cons c w =>
      simp only [isPlaceholder, Bool.and_eq_true, List.head?_cons, beq_iff_eq,
        Option.some.injEq, List.tail_cons] at h
      obtain ⟨rfl, hdigits⟩ := h
      have hnumber : isDigits ('$' :: w) = false := by simp [isDigits]
      have hword : isIdentifierChars ('$' :: w) = false := by
        simp [isIdentifierChars, show isIdentifierStart '$' = false by decide]
      unfold readLexeme
      rw [hnumber, hword, if_neg (by simp), if_neg (by simp), if_pos ⟨rfl, hdigits⟩]

/-- A text that is read as tokens none of which is a placeholder has none. -/
theorem IsPhrase.lacksPlaceholder {s : String} {ts : List Token} (h : IsPhrase s ts) :
    LacksPlaceholder s := by
  intro w hw
  by_contra hplaceholder
  rw [Bool.not_eq_false] at hplaceholder
  have hblank : w ≠ [' '] := by
    rintro rfl
    cases hplaceholder
  have hread : ((lexemes s.toList).filter (· != [' '])).mapM readLexeme = some ts := h.tokens
  obtain ⟨t, ht, hw⟩ := exists_of_mapM hread w (List.mem_filter.mpr ⟨hw, by simpa using hblank⟩)
  rw [readLexeme_of_isPlaceholder hplaceholder] at hw
  have hplain := h.plain t ht
  rw [← Option.some.inj hw] at hplain
  cases hplain

namespace Template

/-! ## Templates -/

section

variable {α : Type} (plain : Char → List α) (place : Nat → List α)

/-- What stands in a template if `bound` parameters precede it, with `place` put for the numbers of
its values. -/
def replaced (bound : Nat) : Template → List α
  | [] => []
  | .text s :: rest => s.toList.flatMap plain ++ replaced bound rest
  | .value _ :: rest => place (bound + 1) ++ replaced (bound + 1) rest

theorem replaced_append (bound : Nat) (t u : Template) : replaced plain place bound (t ++ u)
    = replaced plain place bound t ++ replaced plain place (bound + t.values.length) u := by
  induction t generalizing bound with
  | nil => rfl
  | cons f t ih =>
      cases f with
      | text s => simp [replaced, values, ih]
      | value v => simp [replaced, values, ih, Nat.add_assoc, Nat.add_comm 1]

end

/-- Whether the placeholders in the text of a template are those of its values, whatever precedes it
and whatever follows at a seam. -/
def Placed (t : Template) : Prop :=
  ∀ (α : Type) (plain : Char → List α) (place : Nat → List α) (bound : Nat) (rest : List Char),
    StartsFree rest → Sql.replaced plain place (t.chars bound ++ rest)
      = t.replaced plain place bound ++ Sql.replaced plain place rest

theorem Placed.replaced_chars {t : Template} (h : t.Placed) {α : Type} (plain : Char → List α)
    (place : Nat → List α) (bound : Nat) :
    Sql.replaced plain place (t.chars bound) = t.replaced plain place bound := by
  have hwhole := h α plain place bound [] (by simp [StartsFree])
  rw [List.append_nil] at hwhole
  exact hwhole.trans (List.append_nil _)

theorem placed_nil : Placed [] := fun _ _ _ _ _ _ => rfl

theorem placed_append {t u : Template} (ht : Placed t) (hu : Placed u) (hs : FollowsFree u) :
    Placed (t ++ u) := by
  intro α plain place bound rest hrest
  rw [chars_append, List.append_assoc, ht α plain place _ _ (hs _ _ hrest),
    hu α plain place _ _ hrest, replaced_append, List.append_assoc]

/-- A text without placeholders that ends in no name may stand before a template. -/
theorem placed_text_cons {s : String} {t : Template} (hs : LacksPlaceholder s)
    (hend : ∀ b, NamesApart s.toList b) (ht : Placed t) : Placed (.text s :: t) := by
  intro α plain place bound rest hrest
  rw [chars, List.append_assoc, Sql.replaced_append (hend _), replaced_of_lacks hs,
    ht α plain place bound rest hrest, replaced, List.append_assoc]

theorem placed_lead {s : String} {w : List Token} {t : Template} (hs : IsLead s w)
    (ht : Placed t) : Placed (.text s :: t) :=
  placed_text_cons hs.lacksPlaceholder hs.ends.apart ht

theorem placed_separated {s : String} {w : List Token} {t u : Template} (hs : IsSeparator s w)
    (ht : Placed t) (hu : Placed u) : Placed (t ++ .text s :: u) :=
  placed_append ht (placed_lead hs.toIsLead hu) (followsFree_text hs.starts u)

theorem placed_text {s : String} (hs : LacksPlaceholder s) : Placed [.text s] := by
  intro α plain place bound rest hrest
  simp only [chars, replaced, List.append_nil]
  rw [replaced_append_of_separated (separated_of_startsFree hrest), replaced_of_lacks hs]

/-- **A value has the place of its number.** -/
theorem placed_value (v : Value) : Placed [.value v] := by
  intro α plain place bound rest hrest
  simp only [chars, replaced, List.append_nil]
  rw [replaced_append_of_separated (separated_of_startsFree hrest), replaced_placeholder]

theorem placed_parenthesized {t : Template} (ht : Placed t) : Placed t.parenthesized := by
  have hopen : IsLead "(" [.mark "("] := by decide
  have hclose : IsSeparator ")" [.mark ")"] := by decide
  exact placed_separated (t := .text "(" :: t) hclose (placed_lead hopen ht) placed_nil

theorem placed_joined {separator : String} {w : List Token} (hs : IsSeparator separator w)
    {parts : List Template} (h : ∀ t ∈ parts, Placed t) : Placed (joined separator parts) := by
  induction parts with
  | nil => exact placed_nil
  | cons t parts ih =>
      have ht : Placed t := h t (List.mem_cons_self ..)
      have hrest := ih fun u hu => h u (List.mem_cons_of_mem _ hu)
      cases parts with
      | nil => exact ht
      | cons u parts => exact placed_separated hs ht hrest

end Template

/-! ## Statements -/

/-- The numbers of the placeholders of a statement, from left to right. -/
def Statement.placeholders (s : Statement) : List Nat :=
  replaced (fun _ => []) (fun n => [n]) s.sql.toList

/-- What stands in a statement: a character of its text, or a value. -/
inductive Item where
  | char (c : Char)
  | value (v : Value)

/-- The parameter with a number. Parameters are counted from one. -/
def Item.ofNumber (params : List Value) : Nat → List Item
  | 0 => []
  | n + 1 => (params[n]?.map .value).toList

/-- What stands in a statement once each parameter is put in the place of its placeholder. -/
def Statement.items (s : Statement) : List Item :=
  replaced (fun c => [.char c]) (Item.ofNumber s.params) s.sql.toList

namespace Template

/-- What stands in a template. -/
def items : Template → List Item
  | [] => []
  | .text s :: rest => s.toList.map .char ++ items rest
  | .value v :: rest => .value v :: items rest

theorem replaced_numbers (bound : Nat) (t : Template) :
    t.replaced (fun _ => []) (fun n => [n]) bound = List.range' (bound + 1) t.values.length := by
  induction t generalizing bound with
  | nil => rfl
  | cons f t ih =>
      cases f with
      | text s =>
          have hnone : s.toList.flatMap (fun _ => ([] : List Nat)) = [] := by simp
          rw [replaced, ih, hnone]
          rfl
      | value v =>
          rw [replaced, ih]
          rfl

/-- A value is found under its number. -/
theorem replaced_items (before : List Value) (t : Template) :
    t.replaced (fun c => [.char c]) (Item.ofNumber (before ++ t.values)) before.length
      = t.items := by
  induction t generalizing before with
  | nil => rfl
  | cons f t ih =>
      cases f with
      | text s =>
          have hchars : s.toList.flatMap (fun c => [Item.char c]) = s.toList.map .char :=
            List.map_eq_flatMap.symm
          rw [replaced, hchars, values, ih before, items]
      | value v =>
          -- the value joins those that precede the rest
          have hrest := ih (before ++ [v])
          rw [List.length_append, List.append_assoc] at hrest
          have hv : Item.ofNumber (before ++ v :: values t) (before.length + 1) = [.value v] := by
            simp [Item.ofNumber]
          rw [replaced, values, hv, items]
          exact congrArg (.value v :: ·) hrest

variable {t : Template}

/-- **The placeholders count up from one to the number of parameters.** -/
theorem Placed.placeholders (h : t.Placed) :
    t.statement.placeholders = List.range' 1 t.values.length := by
  rw [Statement.placeholders, statement, text, String.toList_ofList, h.replaced_chars,
    replaced_numbers]

/-- **Each parameter has the place of its value.** -/
theorem Placed.items (h : t.Placed) : t.statement.items = t.items := by
  rw [Statement.items, statement, text, String.toList_ofList, h.replaced_chars]
  exact replaced_items [] t

end Template

end Sql

/-! ## Expressions -/

/-- Whether the name of a column, with its table, brings no placeholder of its own. Identifiers
never do; a column that is bound by hand can have any name. -/
def ColumnRef.LacksPlaceholder (c : ColumnRef) : Prop := Sql.LacksPlaceholder c.qualifiedName

instance (c : ColumnRef) : Decidable c.LacksPlaceholder :=
  inferInstanceAs (Decidable (Sql.LacksPlaceholder c.qualifiedName))

theorem ColumnRef.IsNamed.lacksPlaceholder {c : ColumnRef} (h : c.IsNamed) : c.LacksPlaceholder :=
  (Expr.isPhrase_qualifiedName h).lacksPlaceholder

namespace Expr

open Sql Template

theorem placed_bracketed (wraps : Bool) {t : Template} (h : t.Placed) :
    (bracketed wraps t).Placed := by
  cases wraps
  · exact h
  · exact placed_parenthesized h

theorem placed_listTemplate (items : List Value) : (listTemplate items).Placed := by
  have hcomma : IsSeparator ", " [.mark ","] := by decide
  refine placed_joined hcomma fun t ht => ?_
  obtain ⟨v, -, rfl⟩ := List.mem_map.mp ht
  exact placed_value v

theorem placed_in {left list : Template} (hl : left.Placed) (hr : list.Placed) :
    Template.Placed (left ++ .text " IN " :: list.parenthesized) :=
  placed_separated BinaryOp.isIn.isSeparator_symbol hl (placed_parenthesized hr)

/-- **The only places in the text of an expression are those of its literals**, operand by
operand. -/
theorem placed_template (e : Expr) (h : ∀ c ∈ e.columns, c.LacksPlaceholder) :
    e.template.Placed := by
  fun_induction Expr.template e with
  | case1 c => exact placed_text (h c (by simp [columns]))
  | case2 v => exact placed_value v
  | case3 left items hnil => exact placed_text (by decide)
  | case4 left items hne ih =>
      exact placed_in (placed_bracketed _ (ih fun c hc => h c (by simp [columns, hc])))
        (placed_listTemplate items)
  | case5 left right hlist ih₁ ih₂ =>
      exact placed_in (placed_bracketed _ (ih₁ fun c hc => h c (by simp [columns, hc])))
        (ih₂ fun c hc => h c (by simp [columns, hc]))
  | case6 left op right hlist hop ih₁ ih₂ =>
      have hleft := placed_bracketed (left.wrapsUnder op false)
        (ih₁ fun c hc => h c (by simp [columns, hc]))
      have hright := placed_bracketed (right.wrapsUnder op true)
        (ih₂ fun c hc => h c (by simp [columns, hc]))
      exact placed_bracketed _ (placed_separated op.isSeparator_symbol hleft hright)
  | case7 op operand ih =>
      exact placed_lead op.isLead_symbol
        (placed_bracketed _ (ih fun c hc => h c (by simpa [columns] using hc)))

theorem placeholders_statement {e : Expr} (h : ∀ c ∈ e.columns, c.LacksPlaceholder) :
    e.statement.placeholders = List.range' 1 e.statement.params.length := by
  rw [e.params_eq, e.statement_eq]
  exact (e.placed_template h).placeholders

end Expr

end EntityMapper
