import EntityMapper.Proofs.Expressions
import EntityMapper.Proofs.Grammar

/-!
# Rendering keeps the meaning of an expression

Brackets are chosen at each operator from the operators just below it. The text is nevertheless read
as the whole tree, in every nesting: what is not finished when an operand ends binds at least as
tightly as the operand's own operator (`Expr.tightness`), and that is all that the operator around
it has to know. `reading_of_text` is the result.
-/

namespace EntityMapper

open Sql

namespace Expr

/-- An expression as it is meant to be read: column types are dropped, IN looks in a list, and IN
with an empty list is the condition that never holds. -/
def reading : Expr → Reading
  | .column c => .column c.table c.name
  | .literal v => .value v
  | .binary left .isIn (.literal (.array items)) =>
    if items.isEmpty then .binary (.number 1) .eq (.number 0)
    else .binary left.reading .isIn (.list (items.map .value))
  | .binary left .isIn right => .binary left.reading .isIn (.list [right.reading])
  | .binary left op right => .binary left.reading op right.reading
  | .unary op operand => .unary op operand.reading

theorem reading_operator {left right : Expr} {op : BinaryOp} (hop : op ≠ .isIn) :
    (Expr.binary left op right).reading = .binary left.reading op right.reading := by
  rw [reading]
  · exact fun items h => absurd h hop
  · exact hop

/-- Whether no minus sign stands directly before NOT. -/
def NoMinusBeforeNot : Expr → Prop
  | .column _ | .literal _ => True
  | .binary left _ right => left.NoMinusBeforeNot ∧ right.NoMinusBeforeNot
  | .unary .neg (.unary .not _) => False
  | .unary _ operand => operand.NoMinusBeforeNot

theorem noMinusBeforeNot_unary {op : UnaryOp} {e : Expr} :
    (Expr.unary op e).NoMinusBeforeNot ↔
      ¬(op = .neg ∧ ∃ x, e = .unary .not x) ∧ e.NoMinusBeforeNot := by
  cases op with
  | not => simp [NoMinusBeforeNot]
  | neg =>
      cases e with
      | unary u x => cases u <;> simp [NoMinusBeforeNot]
      | column c => simp [NoMinusBeforeNot]
      | literal v => simp [NoMinusBeforeNot]
      | binary l op r => simp [NoMinusBeforeNot]

theorem noMinusBeforeNot_operand {op : UnaryOp} {e : Expr}
    (h : (Expr.unary op e).NoMinusBeforeNot) : e.NoMinusBeforeNot :=
  (noMinusBeforeNot_unary.mp h).2

end Expr

/-! ## Tables of precedence -/

/-- A level that an operator keeps whatever stands after it. The empty list after IN is why it is
lower for IN: what is read then is a comparison. -/
def BinaryOp.tightness (op : BinaryOp) : Nat := if op = .isIn then 4 else op.level

/-- How the two tables of precedence agree: level by level, and the only operators of one precedence
and two levels are the comparisons, which always get brackets. -/
theorem BinaryOp.tables_agree (op : BinaryOp) :
    (op.isBoolean = true ∧ op.precedence ≤ 2 ∧ op.level = op.precedence ∧ op.tightness = op.level)
      ∨ (op.isBoolean = false ∧ op.isComparison = true ∧ op.precedence = 4 ∧ op.level ≤ 5
        ∧ 4 ≤ op.tightness ∧ op.tightness ≤ op.level)
      ∨ (op.isBoolean = false ∧ op.isComparison = false ∧ op.chains = true ∧ 5 ≤ op.precedence
        ∧ op.precedence ≤ 7 ∧ op.level = op.precedence + 1 ∧ op.tightness = op.level) := by
  cases op <;> decide

theorem BinaryOp.level_ne_unary (op : BinaryOp) (u : UnaryOp) : op.level ≠ u.level := by
  cases op <;> cases u <;> decide

/-- An operator before an operand that gets no brackets binds more tightly than the operator around
it. -/
theorem BinaryOp.level_lt_unary {op : BinaryOp} {u : UnaryOp}
    (h : ¬u.precedence < op.precedence) : op.level < u.level := by
  revert h
  cases u <;> cases op <;> decide

theorem BinaryOp.tightness_ne_unary (op : BinaryOp) (u : UnaryOp) : u.level ≠ op.tightness := by
  cases op <;> cases u <;> decide

theorem BinaryOp.tightness_le_level (op : BinaryOp) : op.tightness ≤ op.level := by
  cases op <;> decide

theorem BinaryOp.level_pos (op : BinaryOp) : 0 < op.level := by
  cases op <;> decide

/-- A left operand that gets no brackets gives way to the operator after it. -/
theorem BinaryOp.left_level {op inner : BinaryOp} (hb : inner.isBoolean = false)
    (hlt : ¬inner.precedence < op.precedence)
    (heq : inner.precedence = op.precedence → inner.isComparison = false) :
    (op.level < inner.tightness ∨ (op.chains = true ∧ op.level ≤ inner.tightness))
      ∧ op.tightness ≤ inner.tightness := by
  have hin := inner.tables_agree.resolve_left fun h => by simp [hb] at h
  rcases hin with ⟨-, hc, hp, -, ht, -⟩ | ⟨-, -, -, hp, -, hl, ht⟩
  · -- comparisons of one precedence would get brackets
    have hne : inner.precedence ≠ op.precedence := fun h => by
      rw [heq h] at hc
      cases hc
    rcases op.tables_agree with ⟨-, h1, h2, h3⟩ | ⟨-, -, h1, -⟩ | ⟨-, -, -, h1, -⟩
    · exact ⟨Or.inl (by omega), by omega⟩
    · omega
    · omega
  · rcases op.tables_agree with
      ⟨-, h1, h2, h3⟩ | ⟨-, -, h1, h2, h3, h4⟩ | ⟨-, -, hch, h1, -, h2, h3⟩
    · exact ⟨Or.inl (by omega), by omega⟩
    · exact ⟨Or.inl (by omega), by omega⟩
    · exact ⟨Or.inr ⟨hch, by omega⟩, by omega⟩

/-- A right operand that gets no brackets binds more tightly than the operator before it. -/
theorem BinaryOp.right_level {op inner : BinaryOp} (hb : inner.isBoolean = false)
    (hlt : op.precedence < inner.precedence) : op.level < inner.tightness := by
  have hin := inner.tables_agree.resolve_left fun h => by simp [hb] at h
  rcases hin with ⟨-, -, h1, -, h2, -⟩ | ⟨-, -, -, h1, -, h2, h3⟩ <;>
    rcases op.tables_agree with
      ⟨-, h4, h5, -⟩ | ⟨-, -, h4, h5, -⟩ | ⟨-, -, -, h4, -, h5, -⟩ <;>
    omega

namespace Expr

/-- A level that everything left open at the end of an expression reaches. -/
def tightness : Expr → Nat
  | .column _ | .literal _ => 10
  | .binary _ op _ => if op.isBoolean then 10 else op.tightness
  | .unary op _ => op.level

end Expr

namespace Sql.Reading

/-! ## Finishing -/

/-- The level at which a frame binds; an open bracket does not bind. -/
def frameLevel : Frame → Nat
  | .left _ op => op.level
  | .before op => op.level
  | .bracket | .items _ => 0

/-- What is read once all frames above an operand are finished. -/
def rebuild : Reading → List Frame → Reading
  | e, [] => e
  | e, .left l op :: frames => rebuild (.binary l op e) frames
  | e, .before op :: frames => rebuild (.unary op e) frames
  | e, _ :: frames => rebuild e frames

theorem rebuild_append (e : Reading) (frames frames' : List Frame) :
    rebuild e (frames ++ frames') = rebuild (rebuild e frames) frames' := by
  induction frames generalizing e with
  | nil => rfl
  | cons f frames ih => cases f <;> exact ih _

/-- Whether a frame is finished before an operator of a level is put behind it. -/
def GivesWay (level : Nat) (chains : Bool) (f : Frame) : Prop :=
  level < frameLevel f ∨ (chains = true ∧ ∃ l op, f = .left l op ∧ level = op.level)

/-- Whether the last thing on the stack binds less tightly than a level. -/
def Below (n : Nat) (stack : List Frame) : Prop := ∀ f ∈ stack.head?, frameLevel f < n

theorem settle_append {level : Nat} {chains : Bool} {frames : List Frame}
    (h : ∀ f ∈ frames, GivesWay level chains f) (e : Reading) (stack : List Frame) :
    settle level chains e (frames ++ stack) = settle level chains (rebuild e frames) stack := by
  induction frames generalizing e with
  | nil => rfl
  | cons f frames ih =>
      have hrest := fun e => ih (fun g hg => h g (List.mem_cons_of_mem _ hg)) e
      have hf := h f (List.mem_cons_self ..)
      cases f with
      | left l op =>
          have hgo : level < op.level ∨ (level = op.level ∧ chains = true) := by
            rcases hf with hlt | ⟨hc, l', op', heq, hl⟩
            · exact Or.inl hlt
            · cases heq; exact Or.inr ⟨hl, hc⟩
          rw [List.cons_append, settle, if_pos hgo, hrest]
          rfl
      | before op =>
          have hgo : level < op.level := by
            rcases hf with hlt | ⟨_, _, _, heq, _⟩
            · exact hlt
            · cases heq
          rw [List.cons_append, settle, if_pos hgo, hrest]
          rfl
      | bracket => rcases hf with hlt | ⟨_, _, _, heq, _⟩ <;> simp_all [frameLevel]
      | items done => rcases hf with hlt | ⟨_, _, _, heq, _⟩ <;> simp_all [frameLevel]

theorem settle_below {level : Nat} {chains : Bool} {e : Reading} {stack : List Frame}
    (h : Below level stack) : settle level chains e stack = some (e, stack) := by
  cases stack with
  | nil => rfl
  | cons f stack =>
      have hf : frameLevel f < level := h f rfl
      cases f with
      | left l op =>
          have hf : op.level < level := hf
          rw [settle, if_neg (by omega), if_neg (by omega)]
      | before op =>
          have hf : op.level < level := hf
          rw [settle, if_neg (by omega)]
      | bracket => rfl
      | items done => rfl

/-- Pieces are read as an expression on top of a stack, and what is left open there reaches a
level. -/
def ReadsAs (ps : List Piece) (stack : List Frame) (e : Reading) (n : Nat) : Prop :=
  ∃ (last : Reading) (frames : List Frame),
    ps.foldlM step (.wants stack) = some (.has last (frames ++ stack))
      ∧ rebuild last frames = e ∧ ∀ f ∈ frames, n ≤ frameLevel f

variable {ps qs : List Piece} {stack : List Frame} {e l r : Reading} {n m : Nat}

/-- A single piece that is an operand leaves nothing open. -/
theorem readsAs_single {p : Piece} (h : step (.wants stack) p = some (.has e stack)) (n : Nat) :
    ReadsAs [p] stack e n :=
  ⟨e, [], by rw [List.foldlM_cons, h]; rfl, rfl, fun _ hf => absurd hf (List.not_mem_nil)⟩

/-- What stands before a closing bracket is finished by it. -/
theorem ReadsAs.close {f : Frame} {next : ReaderState} (h : ReadsAs ps (f :: stack) e n)
    (hn : 0 < n) (hf : Reading.close (e, f :: stack) = some next)
    (hs : settle 0 false e (f :: stack) = some (e, f :: stack)) :
    (ps ++ [Piece.token (.mark ")")]).foldlM step (.wants (f :: stack)) = some next := by
  obtain ⟨last, frames, h1, rfl, h3⟩ := h
  have hway : ∀ g ∈ frames, GivesWay 0 false g :=
    fun g hg => Or.inl (Nat.lt_of_lt_of_le hn (h3 g hg))
  have hclose : step (.has last (frames ++ f :: stack)) (.token (.mark ")")) = some next := by
    change (settle 0 false last (frames ++ f :: stack)).bind Reading.close = _
    rw [settle_append hway, hs, Option.bind_some, hf]
  rw [List.foldlM_append, h1, Option.bind_eq_bind, Option.bind_some, List.foldlM_cons, hclose]
  rfl

theorem step_open (hw : awaitsList stack = false) :
    step (.wants stack) (.token (.mark "(")) = some (.wants (.bracket :: stack)) := by
  simp [step, hw, stepOperand]

theorem step_openList (hw : awaitsList stack = true) :
    step (.wants stack) (.token (.mark "(")) = some (.wants (.items [] :: stack)) := by
  simp [step, hw, stepList]

/-- An expression between brackets is an operand that leaves nothing open. -/
theorem readsAs_bracket (hw : awaitsList stack = false) (h : ReadsAs ps (.bracket :: stack) e n)
    (hn : 0 < n) (m : Nat) :
    ReadsAs (Piece.token (.mark "(") :: ps ++ [Piece.token (.mark ")")]) stack e m := by
  refine ⟨e, [], ?_, rfl, fun _ hf => absurd hf (List.not_mem_nil)⟩
  rw [List.cons_append, List.foldlM_cons, step_open hw]
  exact h.close hn rfl rfl

/-- An expression between the brackets after IN is a list of one item. -/
theorem readsAs_list_single (hw : awaitsList stack = true)
    (h : ReadsAs ps (.items [] :: stack) e n) (hn : 0 < n) (m : Nat) :
    ReadsAs (Piece.token (.mark "(") :: ps ++ [Piece.token (.mark ")")]) stack (.list [e]) m := by
  refine ⟨.list [e], [], ?_, rfl, fun _ hf => absurd hf (List.not_mem_nil)⟩
  rw [List.cons_append, List.foldlM_cons, step_openList hw]
  exact h.close hn rfl rfl

/-! ## Operators and their operands -/

/-- What binds more tightly than an operator is finished before it, and what binds equally tightly
is if such operators are grouped from the left. -/
theorem givesWay_of_level {op : BinaryOp} {f : Frame}
    (h : op.level < frameLevel f ∨ (op.chains = true ∧ op.level ≤ frameLevel f)) :
    GivesWay op.level op.chains f := by
  rcases h with h | ⟨hc, h⟩
  · exact Or.inl h
  · rcases Nat.lt_or_eq_of_le h with h | h
    · exact Or.inl h
    · -- only an operator between two operands can have the same level
      cases f with
      | left l op' => exact Or.inr ⟨hc, l, op', rfl, h⟩
      | before u => exact absurd h (BinaryOp.level_ne_unary op u)
      | bracket => exact absurd h (Nat.ne_of_gt op.level_pos)
      | items done => exact absurd h (Nat.ne_of_gt op.level_pos)

/-- The tokens of an operator are read as the operator. -/
theorem foldlM_operator (op : BinaryOp) (stack : List Frame) (e : Reading) :
    (op.tokens.map Piece.token).foldlM step (.has e stack) = putOperator op e stack := by
  cases op <;> simp [BinaryOp.tokens, BinaryOp.symbol, step, stepOperator, operator?]

/-- **Two operands and the operator between them are read as one expression**, if the left one gives
way to the operator and what was open before does not. -/
theorem readsAs_binary {op : BinaryOp} (hl : ReadsAs ps stack l n)
    (hn : op.level < n ∨ (op.chains = true ∧ op.level ≤ n)) (hs : Below op.level stack)
    (hr : ReadsAs qs (.left l op :: stack) r m) {k : Nat} (hkm : k ≤ m) (hk : k ≤ op.level) :
    ReadsAs (ps ++ (op.tokens.map Piece.token ++ qs)) stack (.binary l op r) k := by
  obtain ⟨last, frames, h1, rfl, h3⟩ := hl
  obtain ⟨last', frames', h1', rfl, h3'⟩ := hr
  have hway : ∀ f ∈ frames, GivesWay op.level op.chains f := fun f hf =>
    givesWay_of_level (hn.imp (fun h => Nat.lt_of_lt_of_le h (h3 f hf))
      fun h => ⟨h.1, Nat.le_trans h.2 (h3 f hf)⟩)
  have hput : putOperator op last (frames ++ stack)
      = some (.wants (.left (rebuild last frames) op :: stack)) := by
    rw [putOperator, settle_append hway, settle_below hs]
    rfl
  refine ⟨last', frames' ++ [.left (rebuild last frames) op], ?_, ?_, ?_⟩
  · rw [List.foldlM_append, h1, Option.bind_eq_bind, Option.bind_some, List.foldlM_append,
      foldlM_operator, hput, Option.bind_eq_bind, Option.bind_some, h1', List.append_assoc]
    rfl
  · rw [rebuild_append]
    rfl
  · intro f hf
    rcases List.mem_append.mp hf with hf | hf
    · exact Nat.le_trans hkm (h3' f hf)
    · rw [List.mem_singleton.mp hf]; exact hk

/-- **An operator and the operand after it are read as one expression.** -/
theorem readsAs_unary {op : UnaryOp} (hw : awaitsList stack = false)
    (hr : ReadsAs qs (.before op :: stack) e m) (hm : op.level ≤ m) :
    ReadsAs (Piece.token op.token :: qs) stack (.unary op e) op.level := by
  obtain ⟨last, frames, h1, rfl, h3⟩ := hr
  have hop : step (.wants stack) (.token op.token) = some (.wants (.before op :: stack)) := by
    cases op <;> simp [step, hw, stepOperand, UnaryOp.token]
  refine ⟨last, frames ++ [.before op], ?_, ?_, ?_⟩
  · rw [List.foldlM_cons, hop, Option.bind_eq_bind, Option.bind_some, h1, List.append_assoc]
    rfl
  · rw [rebuild_append]
    rfl
  · intro f hf
    rcases List.mem_append.mp hf with hf | hf
    · exact Nat.le_trans hm (h3 f hf)
    · rw [List.mem_singleton.mp hf]; exact Nat.le_refl _

/-! ## Lists of values -/

theorem foldlM_list (v : Value) (items : List Value) (done : List Reading) (stack : List Frame) :
    ((Expr.listTemplate (v :: items)).pieces ++ [Piece.token (.mark ")")]).foldlM step
        (.wants (.items done :: stack))
      = some (.has (.list (done ++ (v :: items).map .value)) stack) := by
  induction items generalizing v done with
  | nil => rfl
  | cons w items ih =>
      have hcomma : (Expr.listTemplate (v :: w :: items)).pieces
          = .value v :: .token (.mark ",") :: (Expr.listTemplate (w :: items)).pieces := by
        change Template.pieces (.value v :: .text ", " :: Expr.listTemplate (w :: items)) = _
        rw [Template.pieces_value_cons, Template.pieces_text_cons (w := [.mark ","]) (by decide)]
        rfl
      have hstep : [Piece.value v, .token (.mark ",")].foldlM step (.wants (.items done :: stack))
          = some (.wants (.items (done ++ [.value v]) :: stack)) := rfl
      rw [hcomma]
      change (([Piece.value v, .token (.mark ",")]) ++ ((Expr.listTemplate (w :: items)).pieces
        ++ [Piece.token (.mark ")")])).foldlM step _ = _
      rw [List.foldlM_append, hstep, Option.bind_eq_bind, Option.bind_some, ih, List.append_assoc]
      rfl

/-- Values between the brackets after IN are read as the list of them. -/
theorem readsAs_list (hw : awaitsList stack = true) {items : List Value} (hne : items ≠ [])
    (m : Nat) :
    ReadsAs (Piece.token (.mark "(") :: (Expr.listTemplate items).pieces
      ++ [Piece.token (.mark ")")]) stack (.list (items.map .value)) m := by
  refine ⟨.list (items.map .value), [], ?_, rfl, fun _ hf => absurd hf (List.not_mem_nil)⟩
  obtain ⟨v, rest, rfl⟩ := List.exists_cons_of_ne_nil hne
  rw [List.cons_append, List.foldlM_cons, step_openList hw, Option.bind_eq_bind, Option.bind_some,
    foldlM_list]
  rfl

end Sql.Reading

/-! ## Brackets are where they are needed -/

namespace Expr

open Reading

variable {stack : List Frame}

/-- Whether what is open does not bind more tightly than an expression that is to be read without
brackets around it. -/
def Fits (stack : List Frame) : Expr → Prop
  | .binary _ op _ => op.isBoolean = true ∨ Below op.tightness stack
  | _ => True

theorem below_of_le {n m : Nat} (h : Below n stack) (hnm : n ≤ m) : Below m stack :=
  fun f hf => Nat.lt_of_lt_of_le (h f hf) hnm

theorem tightness_of_isBoolean {op : BinaryOp} (h : op.isBoolean = true) (l r : Expr) :
    (Expr.binary l op r).tightness = 10 := if_pos h

theorem tightness_of_not_isBoolean {op : BinaryOp} (h : op.isBoolean = false) (l r : Expr) :
    (Expr.binary l op r).tightness = op.tightness := if_neg (by simp [h])

/-- What binds more tightly than the last thing that is open fits behind it. -/
theorem fits_of_lt {f : Frame} {e : Expr} (h : frameLevel f < e.tightness) :
    e.Fits (f :: stack) := by
  cases e with
  | column c => trivial
  | literal v => trivial
  | unary op e => trivial
  | binary l op r =>
      cases hb : op.isBoolean with
      | true => exact Or.inl hb
      | false =>
          rw [tightness_of_not_isBoolean hb] at h
          exact Or.inr fun g hg => Option.some.inj hg ▸ h

theorem tightness_pos (e : Expr) : 0 < e.tightness := by
  cases e with
  | column c => simp [tightness]
  | literal v => simp [tightness]
  | unary op e => cases op <;> simp [tightness, UnaryOp.level]
  | binary l op r =>
      cases op <;> simp [tightness, BinaryOp.tightness, BinaryOp.isBoolean, BinaryOp.level]

theorem fits_of_level_zero {f : Frame} (hf : frameLevel f = 0) (e : Expr) :
    e.Fits (f :: stack) := by
  refine fits_of_lt ?_
  rw [hf]
  exact e.tightness_pos

/-- A left operand that gets no brackets fits where its operator does, and gives way to it. -/
theorem left_of_not_wraps {e : Expr} {op : BinaryOp} (hwraps : e.wrapsUnder op false = false)
    (hs : Below op.tightness stack) :
    e.Fits stack ∧ (op.level < e.tightness ∨ (op.chains = true ∧ op.level ≤ e.tightness)) := by
  have htop : op.level < 10 := by cases op <;> decide
  cases e with
  | column c => exact ⟨trivial, Or.inl htop⟩
  | literal v => exact ⟨trivial, Or.inl htop⟩
  | unary u e => exact ⟨trivial, Or.inl (BinaryOp.level_lt_unary (of_decide_eq_false hwraps))⟩
  | binary l inner r =>
      cases hb : inner.isBoolean with
      | true =>
          rw [tightness_of_isBoolean hb]
          exact ⟨Or.inl hb, Or.inl htop⟩
      | false =>
          simp only [wrapsUnder, hb, Bool.not_false, Bool.true_and, Bool.or_eq_false_iff,
            decide_eq_false_iff_not, Bool.and_eq_false_iff, beq_eq_false_iff_ne,
            Bool.false_or] at hwraps
          obtain ⟨hway, hle⟩ :=
            BinaryOp.left_level hb hwraps.1 fun h => hwraps.2.resolve_left (· h)
          rw [tightness_of_not_isBoolean hb]
          exact ⟨Or.inr (below_of_le hs hle), hway⟩

/-- A right operand that gets no brackets binds more tightly than its operator. -/
theorem right_of_not_wraps {e : Expr} {op : BinaryOp} (hwraps : e.wrapsUnder op true = false) :
    op.level < e.tightness := by
  have htop : op.level < 10 := by cases op <;> decide
  cases e with
  | column c => exact htop
  | literal v => exact htop
  | unary u e => exact BinaryOp.level_lt_unary (of_decide_eq_false hwraps)
  | binary l inner r =>
      cases hb : inner.isBoolean with
      | true =>
          rw [tightness_of_isBoolean hb]
          exact htop
      | false =>
          simp only [wrapsUnder, hb, Bool.not_false, Bool.true_and, Bool.or_eq_false_iff,
            decide_eq_false_iff_not, Bool.true_or, Bool.and_true, beq_eq_false_iff_ne] at hwraps
          rw [tightness_of_not_isBoolean hb]
          exact BinaryOp.right_level hb (by omega)

/-- The operand of an operator before it binds at least as tightly, if it gets no brackets. -/
theorem operand_of_not_wraps {e : Expr} {op : UnaryOp} (hm : (Expr.unary op e).NoMinusBeforeNot)
    (hwraps : e.wrapsUnderUnary op = false) : op.level ≤ e.tightness := by
  have htop : op.level ≤ 10 := by cases op <;> decide
  cases e with
  | column c => exact htop
  | literal v => exact htop
  | unary u e =>
      cases op with
      | not => cases u <;> simp [tightness, UnaryOp.level]
      | neg =>
          cases u with
          | not => exact hm.elim
          | neg => exact Nat.le_refl _
  | binary l inner r =>
      cases hb : inner.isBoolean with
      | true =>
          rw [tightness_of_isBoolean hb]
          exact htop
      | false =>
          simp only [wrapsUnderUnary, hb, Bool.not_false, Bool.true_and,
            decide_eq_false_iff_not] at hwraps
          rw [tightness_of_not_isBoolean hb]
          -- only NOT leaves brackets off, and everything but AND and OR binds more tightly
          have hinner := inner.tables_agree.resolve_left fun h => by simp [hb] at h
          cases op <;> simp only [UnaryOp.precedence, UnaryOp.level] at hwraps ⊢ <;> omega

/-- Behind an operator before it, an operand fits that binds as tightly: it begins with such an
operator as well. -/
theorem fits_before {e : Expr} {op : UnaryOp} (h : op.level ≤ e.tightness) :
    e.Fits (.before op :: stack) := by
  cases e with
  | column c => trivial
  | literal v => trivial
  | unary u e => trivial
  | binary l inner r =>
      cases hb : inner.isBoolean with
      | true => exact Or.inl hb
      | false =>
          rw [tightness_of_not_isBoolean hb] at h
          refine fits_of_lt ?_
          rw [tightness_of_not_isBoolean hb]
          exact Nat.lt_of_le_of_ne h (inner.tightness_ne_unary op)

/-- Whether an expression is read as it is meant wherever it fits. -/
def IsReadWell (e : Expr) : Prop :=
  ∀ stack, awaitsList stack = false → e.Fits stack →
    ReadsAs e.template.pieces stack e.reading e.tightness

/-- An expression with brackets around it is read as it is meant everywhere. -/
theorem IsReadWell.parenthesized {e : Expr} (h : e.IsReadWell) (hw : awaitsList stack = false)
    (m : Nat) : ReadsAs e.template.parenthesized.pieces stack e.reading m := by
  rw [Template.pieces_parenthesized]
  exact readsAs_bracket hw (h _ rfl (fits_of_level_zero rfl e)) e.tightness_pos m

/-- **The left operand of an operator gives way to it**, with or without brackets. -/
theorem IsReadWell.left {e : Expr} (h : e.IsReadWell) (op : BinaryOp)
    (hw : awaitsList stack = false) (hs : Below op.tightness stack) :
    ∃ n, ReadsAs (bracketed (e.wrapsUnder op false) e.template).pieces stack e.reading n
      ∧ (op.level < n ∨ (op.chains = true ∧ op.level ≤ n)) := by
  cases hwraps : e.wrapsUnder op false with
  | true =>
      have htop : op.level < 10 := by cases op <;> decide
      exact ⟨10, h.parenthesized hw 10, Or.inl htop⟩
  | false =>
      obtain ⟨hfit, hway⟩ := left_of_not_wraps hwraps hs
      exact ⟨e.tightness, h stack hw hfit, hway⟩

/-- **The right operand of an operator fits behind it**, with or without brackets. -/
theorem IsReadWell.right {e : Expr} (h : e.IsReadWell) {op : BinaryOp} (hop : op ≠ .isIn)
    (l : Reading) (stack : List Frame) :
    ∃ n, ReadsAs (bracketed (e.wrapsUnder op true) e.template).pieces (.left l op :: stack)
        e.reading n
      ∧ op.tightness ≤ n := by
  have hw : awaitsList (.left l op :: stack) = false := by
    cases op <;> first | rfl | exact absurd rfl hop
  cases hwraps : e.wrapsUnder op true with
  | true =>
      have htop : op.tightness ≤ 10 := by cases op <;> decide
      exact ⟨10, h.parenthesized hw 10, htop⟩
  | false =>
      have hlt := right_of_not_wraps hwraps
      exact ⟨e.tightness, h _ hw (fits_of_lt hlt),
        Nat.le_trans op.tightness_le_level (Nat.le_of_lt hlt)⟩

/-- **The operand of an operator before it fits behind it**, with or without brackets. -/
theorem IsReadWell.operand {e : Expr} (h : e.IsReadWell) {op : UnaryOp}
    (hm : (Expr.unary op e).NoMinusBeforeNot) (stack : List Frame) :
    ∃ n, ReadsAs (bracketed (e.wrapsUnderUnary op) e.template).pieces (.before op :: stack)
        e.reading n
      ∧ op.level ≤ n := by
  cases hwraps : e.wrapsUnderUnary op with
  | true =>
      have htop : op.level ≤ 10 := by cases op <;> decide
      exact ⟨10, h.parenthesized rfl 10, htop⟩
  | false =>
      have hle := operand_of_not_wraps hm hwraps
      exact ⟨e.tightness, h _ rfl (fits_before hle), hle⟩

theorem pieces_in (left list : Template) :
    Template.pieces (left ++ .text " IN " :: list.parenthesized)
      = left.pieces ++ (BinaryOp.isIn.tokens.map Piece.token
        ++ (.token (.mark "(") :: list.pieces ++ [.token (.mark ")")])) := by
  rw [Template.pieces_append, Template.pieces_text_cons (w := [.word "IN"]) (by decide),
    Template.pieces_parenthesized]
  rfl

theorem pieces_operator (left right : Template) (op : BinaryOp) :
    Template.pieces (left ++ .text (" " ++ op.symbol ++ " ") :: right)
      = left.pieces ++ (op.tokens.map Piece.token ++ right.pieces) := by
  rw [Template.pieces_append, Template.pieces_text_cons op.isSeparator_symbol.tokens]

/-- The left operand of an operator and what is read behind the operator are read as one
expression. -/
theorem IsReadWell.binary {e : Expr} (h : e.IsReadWell) {op : BinaryOp} {qs : List Piece}
    {r : Reading} {m : Nat} (hw : awaitsList stack = false) (hs : Below op.tightness stack)
    (hr : ReadsAs qs (.left e.reading op :: stack) r m) (hm : op.tightness ≤ m) :
    ReadsAs ((bracketed (e.wrapsUnder op false) e.template).pieces
      ++ (op.tokens.map Piece.token ++ qs)) stack (.binary e.reading op r) op.tightness := by
  obtain ⟨n, hl, hn⟩ := h.left op hw hs
  exact readsAs_binary hl hn (below_of_le hs op.tightness_le_level) hr hm op.tightness_le_level

/-- Two operands and the operator between them are read as one expression, before AND and OR put
brackets around it. -/
theorem IsReadWell.operator {left right : Expr} (hl : left.IsReadWell) (hr : right.IsReadWell)
    {op : BinaryOp} (hop : op ≠ .isIn) (hw : awaitsList stack = false)
    (hs : Below op.tightness stack) :
    ReadsAs (Template.pieces (bracketed (left.wrapsUnder op false) left.template
      ++ .text (" " ++ op.symbol ++ " ") :: bracketed (right.wrapsUnder op true) right.template))
      stack (.binary left.reading op right.reading) op.tightness := by
  obtain ⟨n, hright, hn⟩ := hr.right hop left.reading stack
  rw [pieces_operator]
  exact hl.binary hw hs hright hn

/-- The condition that an empty list after IN becomes is read as the comparison that it is. -/
theorem readsAs_never (hw : awaitsList stack = false) (hs : Below BinaryOp.eq.level stack) :
    ReadsAs (Template.pieces [.text "1=0"]) stack (.binary (.number 1) .eq (.number 0)) 4 := by
  have hpieces : Template.pieces [.text "1=0"]
      = [.token (.number 1)] ++ (BinaryOp.eq.tokens.map Piece.token ++ [.token (.number 0)]) :=
    Template.pieces_text_cons (w := [.number 1, .mark "=", .number 0]) (by decide) []
  have hone : ReadsAs [.token (.number 1)] stack (.number 1) 10 :=
    readsAs_single (by simp [step, hw, stepOperand]) 10
  have hzero : ReadsAs [.token (.number 0)] (.left (.number 1) .eq :: stack) (.number 0) 10 :=
    readsAs_single rfl 10
  rw [hpieces]
  exact readsAs_binary hone (Or.inl (by decide)) hs hzero (by decide) (by decide)

/-- **Every expression is read as it is meant wherever it fits.** -/
theorem isReadWell (e : Expr) (hn : ∀ c ∈ e.columns, c.IsNamed) (hm : e.NoMinusBeforeNot) :
    e.IsReadWell := by
  unfold IsReadWell
  -- the cases are those of rendering: IN with an empty list, with a list and with anything else
  -- come before the other operators
  fun_induction Expr.template e with
  | case1 c =>
      intro stack hw _
      have hpieces : Template.pieces [.text c.qualifiedName] = [.token (.column c.table c.name)] :=
        Template.pieces_text_cons (isPhrase_qualifiedName (hn c (by simp [columns]))).tokens []
      rw [hpieces]
      exact readsAs_single (by simp [step, hw, stepOperand, reading]) _
  | case2 v =>
      intro stack hw _
      exact readsAs_single (by simp [step, hw, stepOperand, reading]) _
  | case3 left items hnil =>
      intro stack hw hfit
      rw [reading, if_pos hnil]
      exact readsAs_never hw (hfit.resolve_left (by decide))
  | case4 left items hne ih =>
      intro stack hw hfit
      have hleft : left.IsReadWell := ih (fun c hc => hn c (by simp [columns, hc])) hm.1
      have hitems : items ≠ [] := fun h => hne (by simp [h])
      rw [pieces_in, reading, if_neg hne]
      exact hleft.binary hw (hfit.resolve_left (by decide)) (readsAs_list rfl hitems 10) (by decide)
  | case5 left right hlist ih₁ ih₂ =>
      intro stack hw hfit
      have hleft : left.IsReadWell := ih₁ (fun c hc => hn c (by simp [columns, hc])) hm.1
      have hright : right.IsReadWell := ih₂ (fun c hc => hn c (by simp [columns, hc])) hm.2
      rw [pieces_in, reading]
      · exact hleft.binary hw (hfit.resolve_left (by decide)) (readsAs_list_single rfl
          (hright _ rfl (fits_of_level_zero rfl right)) right.tightness_pos 10) (by decide)
      · exact fun items => hlist items
  | case6 left op right hlist hop ih₁ ih₂ =>
      intro stack hw hfit
      have hleft : left.IsReadWell := ih₁ (fun c hc => hn c (by simp [columns, hc])) hm.1
      have hright : right.IsReadWell := ih₂ (fun c hc => hn c (by simp [columns, hc])) hm.2
      rw [binaryTemplate, tightness, reading_operator hop]
      cases hb : op.isBoolean with
      | false => exact hleft.operator hright hop hw (hfit.resolve_left (by simp [hb]))
      | true =>
          -- AND and OR bring their own brackets, behind which everything fits
          have hpos : 0 < op.tightness := by cases op <;> decide
          have hs : Below op.tightness (.bracket :: stack) := fun f hf => by cases hf; exact hpos
          rw [bracketed, if_pos rfl, Template.pieces_parenthesized]
          exact readsAs_bracket hw (hleft.operator hright hop rfl hs) hpos 10
  | case7 op operand ih =>
      intro stack hw _
      have hoperand : operand.IsReadWell :=
        ih (fun c hc => hn c (by simpa [columns] using hc)) (noMinusBeforeNot_operand hm)
      obtain ⟨n, hr, hk⟩ := hoperand.operand hm stack
      rw [Template.pieces_text_cons op.isLead_symbol.tokens]
      exact readsAs_unary hw hr hk

/-- **The text of an expression means the expression.**

For every tree over named columns in which no minus sign stands directly before NOT, the text that
is rendered, read with the server's precedences and with the parameters in the places of their
placeholders, is read completely and as the tree itself. No bracket that matters is left out. -/
theorem reading_of_text (e : Expr) (hn : ∀ c ∈ e.columns, c.IsNamed) (hm : e.NoMinusBeforeNot) :
    e.statement.pieces.bind Reading.read = some e.reading := by
  obtain ⟨last, frames, h1, h2, h3⟩ := e.isReadWell hn hm [] rfl (by
    cases e with
    | binary l op r => exact Or.inr fun f hf => by simp at hf
    | _ => trivial)
  have hway : ∀ f ∈ frames, GivesWay 0 false f :=
    fun f hf => Or.inl (Nat.lt_of_lt_of_le e.tightness_pos (h3 f hf))
  have hfinish : finish (.has last (frames ++ [])) = some e.reading := by
    rw [finish, settle_append hway, h2]
    rfl
  rw [e.statement_pieces hn, Option.bind_some, Reading.read, h1, Option.bind_some, hfinish]

/-- A condition in which brackets are needed at one place and not at others:
`(NOT (t.a + $1) * - t.b = $2 OR t.a IN ($3, $4))`. -/
theorem reading_of_text_mixed :
    let a : Expr := .column ⟨"t", "a", .scalar .integer⟩
    let b : Expr := .column ⟨"t", "b", .scalar .integer⟩
    let product : Expr := .binary (.binary a .add (.literal (.int 1))) .mul (.unary .neg b)
    let e : Expr := .binary (.unary .not (.binary product .eq (.literal .null))) .or
      (.binary a .isIn (.literal (.array [.int 3, .int 4])))
    (∀ c ∈ e.columns, c.IsNamed) ∧ e.NoMinusBeforeNot
      ∧ e.statement.sql = "(NOT (t.a + $1) * - t.b = $2 OR t.a IN ($3, $4))"
      ∧ e.statement.pieces.bind Reading.read = some
        (.binary
          (.unary .not (.binary
            (.binary (.binary (.column "t" "a") .add (.value (.int 1))) .mul
              (.unary .neg (.column "t" "b")))
            .eq (.value .null)))
          .or (.binary (.column "t" "a") .isIn (.list [.value (.int 3), .value (.int 4)]))) := by
  intro a b product e
  have hn : ∀ c ∈ e.columns, c.IsNamed := by decide
  have hm : e.NoMinusBeforeNot := by simp [e, product, a, b, NoMinusBeforeNot]
  exact ⟨hn, hm, by decide, reading_of_text e hn hm⟩

end Expr

end EntityMapper
