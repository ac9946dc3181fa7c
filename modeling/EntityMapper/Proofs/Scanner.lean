import EntityMapper.Sql.Identifier
import EntityMapper.Value.Literal
import Mathlib.Data.List.Infix

/-!
# Scanning SQL

Where a value is written into a statement, it must not end what it stands in. To say so the text is
scanned as the server scans it: a quote begins a string literal, two quotes in a row stay inside, a
single one ends it, and brackets and commas count only outside. `Crosses` is the part of a scan that
a piece of text is responsible for, so that pieces can be looked at one by one; a text that is
`SelfContained` leads back to where it began, wherever that is. The literal of every value is.
-/

namespace EntityMapper.Sql

/-! ## The scanner -/

/-- How a place stands to string literals. -/
inductive Quoting where
  | outside
  | inside
  /-- After a quote inside a literal: it ends the literal unless another quote follows. -/
  | closing
deriving DecidableEq, Repr

/-- A place in a text that is scanned. -/
structure Place where
  quoting : Quoting
  /-- How many round brackets are open. -/
  round : Nat
  /-- How many square brackets are open. -/
  square : Nat
deriving DecidableEq, Repr

namespace Place

/-- The place where a text begins. -/
def start : Place := ⟨.outside, 0, 0⟩

/-- Whether the place is outside of literals and of brackets. -/
def isTop (p : Place) : Bool := p.quoting != .inside && p.round == 0 && p.square == 0

/-- The place after a character; none if a bracket ends that did not begin. -/
def step (p : Place) (c : Char) : Option Place :=
  if p.quoting = .inside then
    some { p with quoting := if c = '\'' then .closing else .inside }
  else if c = '\'' then some { p with quoting := .inside }
  else if c = '(' then some ⟨.outside, p.round + 1, p.square⟩
  else if c = '[' then some ⟨.outside, p.round, p.square + 1⟩
  else if c = ')' then if p.round = 0 then none else some ⟨.outside, p.round - 1, p.square⟩
  else if c = ']' then if p.square = 0 then none else some ⟨.outside, p.round, p.square - 1⟩
  else some ⟨.outside, p.round, p.square⟩

/-- Whether a character ends an item of a list: a comma, or the bracket that ends the list. -/
def endsItem (p : Place) (c : Char) : Bool := p.isTop && (c == ',' || c == ')')

end Place

/-- The place to which a text leads. -/
def scan (p : Place) (s : List Char) : Option Place := s.foldlM Place.step p

/-- What follows the round bracket that begins a list. -/
def afterOpening (p : Place) : List Char → Option (List Char)
  | [] => none
  | c :: rest => if p.isTop ∧ c = '(' then some rest else do afterOpening (← p.step c) rest

/-- Reads a list up to the bracket that ends it: what stands between its commas, and what follows
the bracket. What was read of the present item is `item`. -/
def readList (p : Place) (item : List Char) : List Char → Option (List (List Char) × List Char)
  | [] => none
  | c :: rest =>
    if p.endsItem c then
      if c = ')' then some ([item], rest)
      else do
        let (items, rest) ← readList .start [] rest
        return (item :: items, rest)
    else do readList (← p.step c) (item ++ [c]) rest

/-- A text without the blank at its beginning, if there is one. -/
def dropBlank : List Char → List Char
  | ' ' :: rest => rest
  | s => s

/-- The items of a list, without the blank after each comma; if nothing was read there are none. -/
def listItems : List (List Char) → List (List Char)
  | [] => []
  | [[]] => []
  | first :: others => first :: others.map dropBlank

/-- The items of the list in round brackets with which a text ends. -/
def finalList (s : String) : Option (List String) := do
  let (items, rest) ← readList .start [] (← afterOpening .start s.toList)
  if rest.isEmpty then some ((listItems items).map String.ofList) else none

example : finalList "t (a DEFAULT 'x'', (', b NUMERIC(9,2))" =
    some ["a DEFAULT 'x'', ('", "b NUMERIC(9,2)"] := by decide

/-! ## Pieces of a scan -/

/-- Whether a text leads from one place to another without ending an item. -/
inductive Crosses : Place → List Char → Place → Prop where
  | nil (p : Place) : Crosses p [] p
  | cons {p q r : Place} {c : Char} {t : List Char} (hstep : p.step c = some q)
    (hitem : p.endsItem c = false) (h : Crosses q t r) : Crosses p (c :: t) r

namespace Crosses

variable {p q r : Place} {t u : List Char}

theorem append (h : Crosses p t q) (h' : Crosses q u r) : Crosses p (t ++ u) r := by
  induction h with
  | nil p => exact h'
  | cons hstep hitem _ ih => exact .cons hstep hitem (ih h')

theorem scan (h : Crosses p t q) : scan p t = some q := by
  induction h with
  | nil p => rfl
  | cons hstep _ _ ih => rw [Sql.scan, List.foldlM_cons, hstep]; exact ih

/-- What is crossed belongs to the present item. -/
theorem readList (h : Crosses p t q) (item rest : List Char) :
    readList p item (t ++ rest) = readList q (item ++ t) rest := by
  induction h generalizing item with
  | nil p => rw [List.append_nil]; rfl
  | @cons p q r c t hstep hitem _ ih =>
      rw [List.cons_append, Sql.readList, if_neg (by simp [hitem]), hstep]
      change Sql.readList q (item ++ [c]) (t ++ rest) = _
      rw [ih, List.append_assoc]
      rfl

end Crosses

/-! ## Plain characters -/

/-- The characters that mean something to the scanner. -/
def specialChars : List Char := ['\'', '(', ')', '[', ']', ',']

/-- Whether a character means nothing to the scanner. -/
def isPlain (c : Char) : Bool := !specialChars.contains c

/-- Whether all characters of a text mean nothing to the scanner. -/
def IsPlain (t : List Char) : Prop := ∀ c ∈ t, isPlain c = true

instance (t : List Char) : Decidable (IsPlain t) :=
  decidable_of_iff (t.all isPlain = true) List.all_eq_true

theorem isPlain_of_class {p : Char → Bool} (hp : specialChars.all (!p ·) = true) {c : Char}
    (hc : p c = true) : isPlain c = true := by
  rw [isPlain, Bool.not_eq_true', List.contains_eq_mem, decide_eq_false_iff_not]
  intro hmem
  simpa [hc] using List.all_eq_true.mp hp c hmem

section

variable {k : Quoting} {round square : Nat} {t u : List Char}

theorem IsPlain.append (ht : IsPlain t) (hu : IsPlain u) : IsPlain (t ++ u) :=
  List.forall_mem_append.mpr ⟨ht, hu⟩

theorem step_plain {c : Char} (hc : isPlain c = true) (hk : k ≠ .inside) :
    (Place.mk k round square).step c = some ⟨.outside, round, square⟩
      ∧ (Place.mk k round square).endsItem c = false := by
  simp only [isPlain, specialChars, List.contains_eq_mem, List.mem_cons, List.not_mem_nil,
    or_false, Bool.not_eq_true', decide_eq_false_iff_not, not_or] at hc
  obtain ⟨hquote, hround, hround', hsquare, hsquare', hcomma⟩ := hc
  simp [Place.step, Place.endsItem, *]

theorem crosses_plain (h : IsPlain t) :
    Crosses ⟨.outside, round, square⟩ t ⟨.outside, round, square⟩ := by
  induction t with
  | nil => exact .nil _
  | cons c t ih =>
      obtain ⟨hc, ht⟩ := List.forall_mem_cons.mp h
      obtain ⟨hstep, hitem⟩ := step_plain hc (by decide : Quoting.outside ≠ .inside)
      exact .cons hstep hitem (ih ht)

/-! ## String literals -/

theorem endsItem_inside (c : Char) : (Place.mk .inside round square).endsItem c = false := by
  simp [Place.endsItem, Place.isTop]

/-- Nothing ends a literal but a quote. -/
theorem crosses_unquoted (h : '\'' ∉ t) :
    Crosses ⟨.inside, round, square⟩ t ⟨.inside, round, square⟩ := by
  induction t with
  | nil => exact .nil _
  | cons c t ih =>
      rw [List.mem_cons, not_or] at h
      refine .cons ?_ (endsItem_inside c) (ih h.2)
      simp [Place.step, Ne.symm h.1]

/-- A text whose quotes are doubled stays inside. -/
theorem crosses_doubleQuotes (s : List Char) :
    Crosses ⟨.inside, round, square⟩ (doubleQuotes s) ⟨.inside, round, square⟩ := by
  induction s with
  | nil => exact .nil _
  | cons c s ih =>
      unfold doubleQuotes
      split
      · exact .cons rfl (endsItem_inside _) (.cons rfl (by simp [Place.endsItem]) ih)
      · rename_i hc
        refine .cons ?_ (endsItem_inside c) ih
        simp [Place.step, hc]

/-- What stays inside is a literal between quotes. -/
theorem crosses_between (h : Crosses ⟨.inside, round, square⟩ t ⟨.inside, round, square⟩) :
    Crosses ⟨.outside, round, square⟩ ('\'' :: t ++ ['\'']) ⟨.closing, round, square⟩ := by
  refine .cons rfl (by simp [Place.endsItem]) (h.append ?_)
  exact .cons rfl (endsItem_inside _) (.nil _)

/-! ## Texts that lead back -/

/-- Whether a text leads from a place outside of literals, with so many brackets open, to such a
place with the same ones open, without ending an item. -/
def LeadsBack (round square : Nat) (t : List Char) : Prop :=
  ∃ k ≠ .inside, Crosses ⟨.outside, round, square⟩ t ⟨k, round, square⟩

/-- Whether a text leads back wherever it stands. -/
def SelfContained (t : List Char) : Prop := ∀ round square, LeadsBack round square t

theorem leadsBack_plain (h : IsPlain t) : LeadsBack round square t :=
  ⟨.outside, by decide, crosses_plain h⟩

theorem leadsBack_between (h : Crosses ⟨.inside, round, square⟩ t ⟨.inside, round, square⟩) :
    LeadsBack round square ('\'' :: t ++ ['\'']) :=
  ⟨.closing, by decide, crosses_between h⟩

/-- What has no quotes leads back between quotes. -/
theorem leadsBack_unquoted (h : '\'' ∉ t) : LeadsBack round square ('\'' :: t ++ ['\'']) :=
  leadsBack_between (crosses_unquoted h)

/-- A quoted text leads back, whatever it is. -/
theorem leadsBack_quote (s : String) : LeadsBack round square (quote s).toList := by
  rw [quote, String.toList_ofList]
  exact leadsBack_between (crosses_doubleQuotes s.toList)

/-- Anything may follow a plain text. -/
theorem LeadsBack.plain_append (hu : LeadsBack round square u) (ht : IsPlain t) :
    LeadsBack round square (t ++ u) :=
  let ⟨k, hk, h⟩ := hu
  ⟨k, hk, (crosses_plain ht).append h⟩

/-- Right after a literal all but a quote is read as anywhere outside. -/
theorem LeadsBack.after (hu : LeadsBack round square u) (hquote : u.head? ≠ some '\'')
    (hk : k ≠ .inside) :
    ∃ k' ≠ .inside, Crosses ⟨k, round, square⟩ u ⟨k', round, square⟩ := by
  obtain ⟨k', hk', h⟩ := hu
  cases h with
  | nil => exact ⟨k, hk, .nil _⟩
  | @cons _ q _ c u hstep hitem h =>
      have hc : c ≠ '\'' := fun heq => hquote (by rw [heq]; rfl)
      refine ⟨k', hk', .cons (q := q) ?_ ?_ h⟩
      · simpa [Place.step, hk, hc] using hstep
      · simpa [Place.endsItem, Place.isTop, hk] using hitem

/-- Anything but a quote may follow a text that leads back. -/
theorem LeadsBack.append (ht : LeadsBack round square t) (hu : LeadsBack round square u)
    (hquote : u.head? ≠ some '\'') : LeadsBack round square (t ++ u) := by
  obtain ⟨k, hk, h⟩ := ht
  obtain ⟨k', hk', h'⟩ := hu.after hquote hk
  exact ⟨k', hk', h.append h'⟩

/-- What leads back inside of round brackets leads back with them. -/
theorem LeadsBack.inRound (h : LeadsBack (round + 1) square t) :
    Crosses ⟨.outside, round, square⟩ ('(' :: t ++ [')']) ⟨.outside, round, square⟩ := by
  obtain ⟨k, hk, h⟩ := h
  refine .cons rfl (by simp [Place.endsItem]) (h.append (.cons ?_ ?_ (.nil _)))
  · simp [Place.step, hk]
  · simp [Place.endsItem, Place.isTop]

/-- What leads back inside of square brackets leads back with them. -/
theorem LeadsBack.inSquare (h : LeadsBack round (square + 1) t) :
    Crosses ⟨.outside, round, square⟩ ('[' :: t ++ [']']) ⟨.outside, round, square⟩ := by
  obtain ⟨k, hk, h⟩ := h
  refine .cons rfl (by simp [Place.endsItem]) (h.append (.cons ?_ ?_ (.nil _)))
  · simp [Place.step, hk]
  · simp [Place.endsItem]

/-- A comma ends nothing inside of brackets. -/
theorem leadsBack_comma (h : round ≠ 0 ∨ square ≠ 0) : LeadsBack round square [','] := by
  refine ⟨.outside, by decide, .cons rfl ?_ (.nil _)⟩
  rcases h with h | h <;> simp [Place.endsItem, Place.isTop, h]

end

end EntityMapper.Sql
