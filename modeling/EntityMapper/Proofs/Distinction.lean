import EntityMapper.Proofs.Outline
import EntityMapper.Proofs.Places
import EntityMapper.Proofs.Rendering
import Mathlib.Data.List.Chain

/-!
# Different expressions, different texts

What an expression is apart from its values is its skeleton: the operators and where they stand, the
columns by name, and the places of the literals. The text shows just that. One text of two skeletons
would be one condition with two meanings, and there is a single way to it: a minus sign directly
before NOT gets no brackets, so that what follows may belong to NOT or to the operator around the
minus sign (`minus_before_not_is_ambiguous`). The text shows whether an expression has such a place,
and if one of two expressions has none, their texts are equal exactly if their skeletons are
(`text_eq_iff_skeleton_eq`).
-/

namespace EntityMapper

open Sql

namespace Expr

/-! ## Skeletons -/

/-- The expression without what its text does not show: the values of literals and the types of
columns. -/
def skeleton : Expr → Expr
  | .column c => .column { c with type := .scalar .text }
  | .literal _ => .literal .null
  | .binary left op right => .binary left.skeleton op right.skeleton
  | .unary op operand => .unary op operand.skeleton

/-- Whether no operator is IN. -/
def LacksIn : Expr → Prop
  | .column _ | .literal _ => True
  | .binary left op right => op ≠ .isIn ∧ left.LacksIn ∧ right.LacksIn
  | .unary _ operand => operand.LacksIn

variable {e e' : Expr} {op : BinaryOp}

theorem lacksIn_skeleton (h : e.LacksIn) : e.skeleton.LacksIn := by
  induction e with
  | column c => trivial
  | literal v => trivial
  | binary l op r ihl ihr => exact ⟨h.1, ihl h.2.1, ihr h.2.2⟩
  | unary op e ih => exact ih h

theorem isNamed_skeleton (h : ∀ c ∈ e.columns, c.IsNamed) :
    ∀ c ∈ e.skeleton.columns, c.IsNamed := by
  induction e with
  | column c =>
      intro d hd
      rw [List.mem_singleton.mp hd]
      exact h c (List.mem_singleton.mpr rfl)
  | literal v => exact h
  | binary l op r ihl ihr =>
      intro c hc
      rcases List.mem_append.mp hc with hc | hc
      · exact ihl (fun c hc => h c (List.mem_append_left _ hc)) c hc
      · exact ihr (fun c hc => h c (List.mem_append_right _ hc)) c hc
  | unary op e ih => exact ih h

/-- The literals of a skeleton are all alike. -/
theorem literals_skeleton (h : e.LacksIn) : ∀ v ∈ e.skeleton.literals, v = .null := by
  induction e with
  | column c => exact fun v hv => by cases hv
  | literal v => exact fun w hw => List.mem_singleton.mp hw
  | binary l op r ihl ihr =>
      intro v hv
      rw [skeleton, literals_operator h.1] at hv
      rcases List.mem_append.mp hv with hv | hv
      · exact ihl h.2.1 v hv
      · exact ihr h.2.2 v hv
  | unary op e ih => exact ih h

theorem wrapsUnder_skeleton (e : Expr) (outer : BinaryOp) (onRight : Bool) :
    e.skeleton.wrapsUnder outer onRight = e.wrapsUnder outer onRight := by
  cases e <;> rfl

theorem wrapsUnderUnary_skeleton (e : Expr) (outer : UnaryOp) :
    e.skeleton.wrapsUnderUnary outer = e.wrapsUnderUnary outer := by
  cases e <;> rfl

theorem outline_skeleton (h : e.LacksIn) : e.skeleton.template.outline = e.template.outline := by
  induction e with
  | column c => rfl
  | literal v => rfl
  | binary l op r ihl ihr =>
      exact outline_operator h.1 (wrapsUnder_skeleton l op false) (wrapsUnder_skeleton r op true)
        (ihl h.2.1) (ihr h.2.2)
  | unary op e ih => exact outline_unary (wrapsUnderUnary_skeleton e op) (ih h)

/-- **The text of an expression is the text of its skeleton.** -/
theorem text_skeleton (h : e.LacksIn) : e.skeleton.text = e.text := by
  rw [text_eq, text_eq, Template.text, Template.text,
    Template.chars_of_outline (outline_skeleton h)]

/-- A skeleton is what it is read as. -/
theorem skeleton_eq_of_reading_eq (h : e.LacksIn) (h' : e'.LacksIn)
    (heq : e.skeleton.reading = e'.skeleton.reading) : e.skeleton = e'.skeleton := by
  induction e generalizing e' with
  | column c =>
      cases e' with
      | column c' =>
          obtain ⟨htable, hname⟩ := Reading.column.inj heq
          simp only [skeleton, ColumnRef.mk.injEq, Expr.column.injEq, and_true]
          exact ⟨htable, hname⟩
      | literal v => cases heq
      | binary l op r => rw [skeleton, skeleton, reading_operator h'.1] at heq; cases heq
      | unary op e => cases heq
  | literal v =>
      cases e' with
      | column c => cases heq
      | literal v => rfl
      | binary l op r => rw [skeleton, skeleton, reading_operator h'.1] at heq; cases heq
      | unary op e => cases heq
  | binary l op r ihl ihr =>
      rw [skeleton, reading_operator h.1] at heq
      cases e' with
      | column c => cases heq
      | literal v => cases heq
      | binary l' op' r' =>
          rw [skeleton, reading_operator h'.1] at heq
          obtain ⟨hl, rfl, hr⟩ := Reading.binary.inj heq
          rw [skeleton, skeleton, ihl h.2.1 h'.2.1 hl, ihr h.2.2 h'.2.2 hr]
      | unary op e => cases heq
  | unary op e ih =>
      cases e' with
      | column c => cases heq
      | literal v => cases heq
      | binary l op r => rw [skeleton, skeleton, reading_operator h'.1] at heq; cases heq
      | unary op' x' =>
          obtain ⟨rfl, hx⟩ := Reading.unary.inj heq
          rw [skeleton, skeleton, @ih x' h h' hx]

/-- Expressions of one text have skeletons of one statement: the text tells how many literals there
are, and those of skeletons are alike. -/
theorem statement_skeleton_eq (hn : ∀ c ∈ e.columns, c.IsNamed) (hn' : ∀ c ∈ e'.columns, c.IsNamed)
    (h : e.LacksIn) (h' : e'.LacksIn) (htext : e.text = e'.text) :
    e.skeleton.statement = e'.skeleton.statement := by
  have hsql : e.skeleton.statement.sql = e'.skeleton.statement.sql := by
    change e.skeleton.text = e'.skeleton.text
    rw [text_skeleton h, text_skeleton h', htext]
  have hlength : e.skeleton.statement.params.length = e'.skeleton.statement.params.length := by
    have hplaces := placeholders_statement fun c hc => (isNamed_skeleton hn c hc).lacksPlaceholder
    have hplaces' :=
      placeholders_statement fun c hc => (isNamed_skeleton hn' c hc).lacksPlaceholder
    have hsame : e.skeleton.statement.placeholders = e'.skeleton.statement.placeholders := by
      rw [Statement.placeholders, hsql]
      rfl
    have hcount := congrArg List.length (hplaces.symm.trans (hsame.trans hplaces'))
    rwa [List.length_range', List.length_range'] at hcount
  have hnull : ∀ {x : Expr}, x.LacksIn →
      x.skeleton.statement.params = List.replicate x.skeleton.statement.params.length .null := by
    intro x hx
    refine List.eq_replicate_of_mem fun v hv => literals_skeleton hx v ?_
    rw [← values_template, ← params_eq]
    exact hv
  have hparams : e.skeleton.statement.params = e'.skeleton.statement.params := by
    rw [hnull h, hnull h', hlength]
  calc e.skeleton.statement
      = ⟨e.skeleton.statement.sql, e.skeleton.statement.params⟩ := rfl
    _ = ⟨e'.skeleton.statement.sql, e'.skeleton.statement.params⟩ := by rw [hsql, hparams]
    _ = e'.skeleton.statement := rfl

/-! ## A minus sign before NOT shows in the text -/

/-- Whether two pieces side by side are anything but a minus sign and NOT. -/
def Apart (p q : Piece) : Prop := ¬(p = .token (.mark "-") ∧ q = .token (.word "NOT"))

theorem apart_of_left {p q : Piece} (h : p ≠ .token (.mark "-")) : Apart p q := fun hpq => h hpq.1

theorem apart_of_right {p q : Piece} (h : q ≠ .token (.word "NOT")) : Apart p q :=
  fun hpq => h hpq.2

/-- Brackets stand between a minus sign and NOT. -/
theorem isChain_bracketed (wraps : Bool) (t : Template) :
    (bracketed wraps t).pieces.IsChain Apart ↔ t.pieces.IsChain Apart := by
  cases wraps with
  | false => rfl
  | true =>
      rw [bracketed, if_pos rfl, Template.pieces_parenthesized, List.cons_append, List.isChain_cons,
        List.isChain_append]
      have hopen : ∀ q, Apart (.token (.mark "(")) q := fun q => apart_of_left (by simp)
      have hclose : ∀ p, Apart p (.token (.mark ")")) := fun p => apart_of_right (by simp)
      simp [hopen, hclose]

theorem head_bracketed {wraps : Bool} {t : Template}
    (h : (bracketed wraps t).pieces.head? = some (.token (.word "NOT"))) :
    wraps = false ∧ t.pieces.head? = some (.token (.word "NOT")) := by
  cases wraps with
  | false => exact ⟨rfl, h⟩
  | true =>
      rw [bracketed, if_pos rfl, Template.pieces_parenthesized] at h
      simp at h

theorem pieces_unary (op : UnaryOp) (e : Expr) : (Expr.unary op e).template.pieces
    = .token op.token :: (bracketed (e.wrapsUnderUnary op) e.template).pieces :=
  Template.pieces_text_cons op.isLead_symbol.tokens _

/-- Every other operator puts NOT into brackets. -/
theorem wrapsUnder_not (e : Expr) (h : op.isBoolean = false) (onRight : Bool) :
    (Expr.unary .not e).wrapsUnder op onRight = true := by
  cases op <;> first | rfl | cases h

theorem head_tokens_ne_not (op : BinaryOp) :
    (op.tokens.map Piece.token).head? ≠ some (.token (.word "NOT")) := by
  cases op <;> simp [BinaryOp.tokens, BinaryOp.symbol]

/-- Only an expression that is a NOT begins with one. -/
theorem eq_not_of_head (hn : ∀ c ∈ e.columns, c.IsNamed) (h : e.LacksIn)
    (hhead : e.template.pieces.head? = some (.token (.word "NOT"))) : ∃ x, e = .unary .not x := by
  induction e with
  | column c =>
      have hc := isPhrase_qualifiedName (hn c (List.mem_singleton.mpr rfl))
      rw [template, Template.pieces_text_cons hc.tokens] at hhead
      simp at hhead
  | literal v => cases hhead
  | binary l op r ihl ihr =>
      rw [template_operator h.1, binaryTemplate] at hhead
      obtain ⟨hb, hhead⟩ := head_bracketed hhead
      rw [pieces_operator, List.head?_append, Option.or_eq_some_iff] at hhead
      rcases hhead with hleft | ⟨-, hop⟩
      · -- the left operand would begin with NOT without brackets
        obtain ⟨hwraps, hleft⟩ := head_bracketed hleft
        obtain ⟨x, rfl⟩ := ihl (fun c hc => hn c (List.mem_append_left _ hc)) h.2.1 hleft
        rw [wrapsUnder_not x hb] at hwraps
        cases hwraps
      · rw [List.head?_append, Option.or_eq_some_iff] at hop
        rcases hop with hop | ⟨hnone, -⟩
        · exact absurd hop (head_tokens_ne_not op)
        · cases op <;> simp [BinaryOp.tokens] at hnone
  | unary op e ih =>
      cases op with
      | not => exact ⟨e, rfl⟩
      | neg =>
          rw [pieces_unary] at hhead
          simp [UnaryOp.token] at hhead

/-- The pieces of an operator do not make a minus sign before NOT, and neither do those on its
left. -/
theorem isChain_operator (op : BinaryOp) (ps qs : List Piece) :
    (ps ++ (op.tokens.map Piece.token ++ qs)).IsChain Apart ↔
      ps.IsChain Apart ∧ qs.IsChain Apart ∧
        (op = .sub → qs.head? ≠ some (.token (.word "NOT"))) := by
  have hhead : (∀ q, qs.head? = some q → ¬q = .token (.word "NOT"))
      ↔ ¬qs.head? = some (.token (.word "NOT")) :=
    ⟨fun h heq => h _ heq rfl, fun h q hq heq => h (heq ▸ hq)⟩
  rw [List.isChain_append, List.isChain_append]
  cases op <;> simp [BinaryOp.tokens, BinaryOp.symbol, Apart, hhead]

/-- **Whether a minus sign stands directly before NOT can be seen.** -/
theorem isChain_pieces (hn : ∀ c ∈ e.columns, c.IsNamed) (h : e.LacksIn) :
    e.template.pieces.IsChain Apart ↔ e.NoMinusBeforeNot := by
  induction e with
  | column c =>
      have hc := isPhrase_qualifiedName (hn c (List.mem_singleton.mpr rfl))
      rw [template, Template.pieces_text_cons hc.tokens]
      simp [Template.pieces, NoMinusBeforeNot]
  | literal v => simp [template, Template.pieces, Fragment.pieces, NoMinusBeforeNot]
  | binary l op r ihl ihr =>
      have hl := ihl (fun c hc => hn c (List.mem_append_left _ hc)) h.2.1
      have hnr : ∀ c ∈ r.columns, c.IsNamed := fun c hc => hn c (List.mem_append_right _ hc)
      have hsub : op = .sub → (bracketed (r.wrapsUnder op true) r.template).pieces.head?
          ≠ some (.token (.word "NOT")) := by
        rintro rfl hhead
        obtain ⟨hwraps, hhead⟩ := head_bracketed hhead
        obtain ⟨x, rfl⟩ := eq_not_of_head hnr h.2.2 hhead
        cases hwraps
      rw [template_operator h.1, binaryTemplate, isChain_bracketed, pieces_operator,
        isChain_operator, isChain_bracketed, isChain_bracketed, hl, ihr hnr h.2.2]
      exact ⟨fun hc => ⟨hc.1, hc.2.1⟩, fun hm => ⟨hm.1, hm.2, hsub⟩⟩
  | unary op e ih =>
      rw [pieces_unary, List.isChain_cons, isChain_bracketed, ih hn h, noMinusBeforeNot_unary]
      refine and_congr_left fun _ => ⟨?_, ?_⟩
      · rintro hapart ⟨rfl, x, rfl⟩
        exact hapart _ rfl ⟨rfl, rfl⟩
      · rintro hminus p hp ⟨hop, rfl⟩
        obtain ⟨-, hhead⟩ := head_bracketed hp
        cases op with
        | not => cases hop
        | neg => exact hminus ⟨rfl, eq_not_of_head hn h hhead⟩

theorem noMinusBeforeNot_skeleton (e : Expr) :
    e.skeleton.NoMinusBeforeNot ↔ e.NoMinusBeforeNot := by
  induction e with
  | column c => rfl
  | literal v => rfl
  | binary l op r ihl ihr => exact and_congr ihl ihr
  | unary op e ih =>
      have hnot : (∃ x, e.skeleton = .unary .not x) ↔ ∃ x, e = .unary .not x := by
        cases e <;> simp [skeleton]
      rw [skeleton, noMinusBeforeNot_unary, noMinusBeforeNot_unary, ih, hnot]

/-! ## One text, one skeleton -/

/-- **No two different expressions have one text**, if a minus sign stands directly before NOT in at
most one of them.

For all trees over named columns without IN, of which at least one is free of such a place: the
texts are equal exactly if the trees have the same operators at the same places, the same columns by
name, and literals at the same places. -/
theorem text_eq_iff_skeleton_eq (hn : ∀ c ∈ e.columns, c.IsNamed)
    (hn' : ∀ c ∈ e'.columns, c.IsNamed) (h : e.LacksIn) (h' : e'.LacksIn)
    (hm : e.NoMinusBeforeNot ∨ e'.NoMinusBeforeNot) :
    e.text = e'.text ↔ e.skeleton = e'.skeleton := by
  constructor
  · intro htext
    have hsame := statement_skeleton_eq hn hn' h h' htext
    have hs := isNamed_skeleton hn
    have hs' := isNamed_skeleton hn'
    have hpieces : e.skeleton.template.pieces = e'.skeleton.template.pieces := by
      have hread := e.skeleton.statement_pieces hs
      rw [hsame, e'.skeleton.statement_pieces hs'] at hread
      exact (Option.some.inj hread).symm
    -- the place shows in the text, so that neither has one
    have hboth : e.skeleton.NoMinusBeforeNot ∧ e'.skeleton.NoMinusBeforeNot := by
      rw [← noMinusBeforeNot_skeleton e, ← noMinusBeforeNot_skeleton e'] at hm
      have hchain := isChain_pieces hs (lacksIn_skeleton h)
      have hchain' := isChain_pieces hs' (lacksIn_skeleton h')
      rw [hpieces, hchain'] at hchain
      rcases hm with hm | hm
      · exact ⟨hm, hchain.mpr hm⟩
      · exact ⟨hchain.mp hm, hm⟩
    have hreading := reading_of_text e.skeleton hs hboth.1
    rw [hsame, reading_of_text e'.skeleton hs' hboth.2] at hreading
    exact skeleton_eq_of_reading_eq h h' (Option.some.inj hreading).symm
  · intro hskeleton
    rw [← text_skeleton h, hskeleton, text_skeleton h']

/-- Two conditions with a minus sign and NOT in them that differ in a bracket only. -/
theorem text_eq_iff_skeleton_eq_brackets :
    let a : Expr := .column ⟨"t", "a", .scalar .integer⟩
    let e : Expr := .binary (.unary .not (.unary .neg a)) .eq (.literal (.bool true))
    let e' : Expr := .unary .not (.binary (.unary .neg a) .eq (.literal (.bool true)))
    (∀ c ∈ e.columns, c.IsNamed) ∧ (∀ c ∈ e'.columns, c.IsNamed) ∧ e.LacksIn ∧ e'.LacksIn
      ∧ e.NoMinusBeforeNot ∧ e.text = "(NOT - t.a) = $1" ∧ e'.text = "NOT - t.a = $1"
      ∧ e.skeleton ≠ e'.skeleton ∧ (e.text = e'.text ↔ e.skeleton = e'.skeleton) := by
  intro a e e'
  have hn : ∀ c ∈ e.columns, c.IsNamed := by decide
  have hn' : ∀ c ∈ e'.columns, c.IsNamed := by decide
  have h : e.LacksIn := ⟨by decide, trivial, trivial⟩
  have h' : e'.LacksIn := ⟨by decide, trivial, trivial⟩
  have hm : e.NoMinusBeforeNot := ⟨trivial, trivial⟩
  exact ⟨hn, hn', h, h', hm, by decide, by decide, nofun,
    text_eq_iff_skeleton_eq hn hn' h h' (.inl hm)⟩

/-- The opposite of a negated comparison and the comparison of the opposite of a negation have one
text. -/
theorem minus_before_not_is_ambiguous :
    let a : Expr := .column ⟨"t", "a", .scalar .bool⟩
    let b : Expr := .column ⟨"t", "b", .scalar .bool⟩
    let e : Expr := .unary .neg (.unary .not (.binary a .eq b))
    let e' : Expr := .binary (.unary .neg (.unary .not a)) .eq b
    (∀ c ∈ e.columns, c.IsNamed) ∧ (∀ c ∈ e'.columns, c.IsNamed) ∧ e.LacksIn ∧ e'.LacksIn
      ∧ e.text = "- NOT t.a = t.b" ∧ e'.text = "- NOT t.a = t.b" ∧ e.skeleton ≠ e'.skeleton := by
  intro a b e e'
  exact ⟨by decide, by decide, ⟨by decide, trivial, trivial⟩, ⟨by decide, trivial, trivial⟩,
    by decide, by decide, nofun⟩

end Expr

end EntityMapper
