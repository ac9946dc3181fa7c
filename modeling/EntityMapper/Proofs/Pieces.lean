import EntityMapper.Proofs.Templates
import EntityMapper.Proofs.Tokens

/-!
# Reading statements back: parameters in their places

What the server makes of a statement is its tokens with the parameters put where their placeholders
stand. `Statement.pieces` reads a statement so. A template says the same before anything is
numbered, and `Readable` says that numbering, writing and reading lose nothing of it, whatever
precedes and whatever follows. `statement_pieces` is what comes of that for a whole statement: each
parameter arrives in the place of its value.
-/

namespace EntityMapper.Sql

/-- A piece of a statement as it is read. -/
inductive Piece where
  | token (t : Token)
  /-- The value that is put in the place of a placeholder. -/
  | value (v : Value)

namespace Token

/-- The number of a placeholder. -/
def placeholder? : Token → Option Nat
  | .placeholder n => some n
  | _ => none

/-- The token with its parameter put in. Parameters are counted from one. -/
def fill (params : List Value) : Token → Option Piece
  | .placeholder 0 => none
  | .placeholder (n + 1) => params[n]?.map .value
  | t => some (.token t)

theorem fill_of_not_placeholder (params : List Value) {t : Token} (h : t.placeholder? = none) :
    t.fill params = some (.token t) := by
  cases t <;> first | rfl | simp [placeholder?] at h

end Token

namespace Statement

/-- What a statement says: its tokens with the parameters put in. -/
def pieces (s : Statement) : Option (List Piece) :=
  (tokens s.sql.toList).bind (·.mapM (Token.fill s.params))

end Statement

/-! ## Texts -/

/-- A text that is read as tokens, none of which is a placeholder. -/
structure IsPhrase (s : String) (w : List Token) : Prop where
  tokens : tokens s.toList = some w
  plain : ∀ x ∈ w, x.placeholder? = none

/-- A text that ends at a seam as well, so that anything can follow. -/
structure IsLead (s : String) (w : List Token) : Prop extends IsPhrase s w where
  ends : EndsFree s.toList

/-- A text that also begins at a seam, so that it can stand between anything. -/
structure IsSeparator (s : String) (w : List Token) : Prop extends IsLead s w where
  starts : s.toList.head?.any isBreak = true

instance (s : String) (w : List Token) : Decidable (IsPhrase s w) :=
  decidable_of_decidable_of_iff
    (p := Sql.tokens s.toList = some w ∧ ∀ x ∈ w, x.placeholder? = none)
    ⟨fun h => ⟨h.1, h.2⟩, fun h => ⟨h.1, h.2⟩⟩

instance (s : String) (w : List Token) : Decidable (IsLead s w) :=
  decidable_of_decidable_of_iff (p := IsPhrase s w ∧ EndsFree s.toList)
    ⟨fun h => ⟨h.1, h.2⟩, fun h => ⟨h.1, h.2⟩⟩

instance (s : String) (w : List Token) : Decidable (IsSeparator s w) :=
  decidable_of_decidable_of_iff (p := IsLead s w ∧ s.toList.head?.any isBreak = true)
    ⟨fun h => ⟨h.1, h.2⟩, fun h => ⟨h.1, h.2⟩⟩

/-! ## Numbering -/

/-- The values among pieces. -/
def pieceValues : List Piece → List Value
  | [] => []
  | .token _ :: rest => pieceValues rest
  | .value v :: rest => v :: pieceValues rest

/-- Whether no placeholder is among pieces, so that all places are taken by values. -/
def IsFilled (ps : List Piece) : Prop :=
  ∀ t, Piece.token t ∈ ps → t.placeholder? = none

/-- The tokens of pieces if `bound` parameters precede them. -/
def numbered (bound : Nat) : List Piece → List Token
  | [] => []
  | .token t :: rest => t :: numbered bound rest
  | .value _ :: rest => .placeholder (bound + 1) :: numbered (bound + 1) rest

theorem numbered_append (bound : Nat) (ps qs : List Piece) :
    numbered bound (ps ++ qs)
      = numbered bound ps ++ numbered (bound + (pieceValues ps).length) qs := by
  induction ps generalizing bound with
  | nil => rfl
  | cons p ps ih =>
      cases p with
      | token t => simp [numbered, pieceValues, ih]
      | value v =>
          -- one parameter more precedes the rest
          simp [numbered, pieceValues, ih, Nat.add_assoc, Nat.add_comm 1]

theorem numbered_tokens (bound : Nat) (ts : List Token) :
    numbered bound (ts.map .token) = ts := by
  induction ts with
  | nil => rfl
  | cons t ts ih => simp [numbered, ih]

theorem pieceValues_append (ps qs : List Piece) :
    pieceValues (ps ++ qs) = pieceValues ps ++ pieceValues qs := by
  induction ps with
  | nil => rfl
  | cons p ps ih => cases p <;> simp [pieceValues, ih]

theorem pieceValues_tokens (ts : List Token) : pieceValues (ts.map .token) = [] := by
  induction ts with
  | nil => rfl
  | cons t ts ih => simp [pieceValues, ih]

theorem isFilled_append {ps qs : List Piece} (hp : IsFilled ps) (hq : IsFilled qs) :
    IsFilled (ps ++ qs) := fun t h =>
  (List.mem_append.mp h).elim (hp t) (hq t)

/-- Putting the parameters in undoes the numbering. -/
theorem fill_numbered (before : List Value) {ps : List Piece} (h : IsFilled ps) :
    (numbered before.length ps).mapM (Token.fill (before ++ pieceValues ps)) = some ps := by
  induction ps generalizing before with
  | nil => rfl
  | cons p ps ih =>
      have hrest : IsFilled ps := fun t ht => h t (List.mem_cons_of_mem _ ht)
      cases p with
      | token t =>
          have ht : t.placeholder? = none := h t (by simp)
          rw [numbered, List.mapM_cons, Token.fill_of_not_placeholder _ ht, pieceValues,
            ih before hrest]
          rfl
      | value v =>
          -- the value joins those that precede the rest
          have hfilled := ih (before ++ [v]) hrest
          have hv : Token.fill (before ++ v :: pieceValues ps) (.placeholder (before.length + 1))
              = some (.value v) := by simp [Token.fill]
          simp only [List.length_append, List.length_singleton, List.append_assoc,
            List.singleton_append] at hfilled
          rw [numbered, List.mapM_cons, pieceValues, hv, hfilled]
          rfl

/-! ## What a template says -/

/-- What a fragment says. -/
def Fragment.pieces : Fragment → List Piece
  | .text s => ((tokens s.toList).getD []).map .token
  | .value v => [.value v]

namespace Template

/-- What a template says. -/
def pieces (t : Template) : List Piece := t.flatMap Fragment.pieces

theorem pieces_append (t u : Template) : pieces (t ++ u) = t.pieces ++ u.pieces :=
  List.flatMap_append ..

theorem pieces_text_cons {s : String} {w : List Token} (h : tokens s.toList = some w)
    (t : Template) : pieces (.text s :: t) = w.map .token ++ t.pieces := by
  simp [pieces, Fragment.pieces, h]

theorem pieces_value_cons (v : Value) (t : Template) :
    pieces (.value v :: t) = .value v :: t.pieces := rfl

theorem pieceValues_pieces (t : Template) : pieceValues t.pieces = t.values := by
  induction t with
  | nil => rfl
  | cons f t ih =>
      cases f with
      | text s =>
          change pieceValues (Fragment.pieces (.text s) ++ pieces t) = values t
          rw [pieceValues_append, ih, Fragment.pieces, pieceValues_tokens]
          rfl
      | value v =>
          rw [pieces_value_cons, values, ← ih]
          rfl

/-- A template that is read as what it says, with the right numbers, whatever precedes it and
whatever follows at a seam. -/
structure Readable (t : Template) : Prop where
  /-- The text is read as the numbered pieces. -/
  reads : ∀ (bound : Nat) (rest : List Char), StartsFree rest →
    tokens (t.chars bound ++ rest) = (tokens rest).map (numbered bound t.pieces ++ ·)
  /-- No text of the template is a placeholder. -/
  filled : IsFilled t.pieces

theorem readable_nil : Readable [] :=
  ⟨fun _ rest _ => by cases h : tokens rest <;> simp [chars, pieces, numbered, h],
    fun _ h => by simp [pieces] at h⟩

/-- Whether a template begins at a seam, or lets what follows begin there. -/
def FollowsFree (t : Template) : Prop :=
  ∀ (bound : Nat) (rest : List Char), StartsFree rest → StartsFree (t.chars bound ++ rest)

theorem followsFree_nil : FollowsFree [] := fun _ _ hrest => hrest

theorem followsFree_text {s : String} (hs : s.toList.head?.any isBreak = true) (t : Template) :
    FollowsFree (.text s :: t) := by
  intro bound rest _ c hc
  obtain ⟨d, hd, hbreak⟩ := (Option.any_eq_true _ _).mp hs
  rw [chars, List.append_assoc, List.head?_append, hd] at hc
  exact Option.some.inj hc ▸ hbreak

/-- Readable templates are read one after the other if the second begins at a seam. -/
theorem readable_append {t u : Template} (ht : Readable t) (hu : Readable u)
    (hs : FollowsFree u) : Readable (t ++ u) := by
  refine ⟨?_, ?_⟩
  · intro bound rest hrest
    rw [chars_append, List.append_assoc, ht.reads _ _ (hs _ _ hrest), hu.reads _ _ hrest,
      pieces_append, numbered_append, pieceValues_pieces]
    cases tokens rest <;> simp
  · rw [pieces_append]
    exact isFilled_append ht.filled hu.filled

/-- A text is read before a template if no token reaches from it into what follows. -/
theorem readable_text_cons {s : String} {w : List Token} {t : Template} (hs : IsPhrase s w)
    (ht : Readable t)
    (hsep : ∀ (bound : Nat) (rest : List Char), StartsFree rest →
      Separated s.toList (t.chars bound ++ rest)) : Readable (.text s :: t) := by
  refine ⟨?_, ?_⟩
  · intro bound rest hrest
    rw [chars, List.append_assoc, tokens_append (hsep bound rest hrest) hs.tokens,
      ht.reads bound rest hrest, pieces_text_cons hs.tokens, numbered_append, numbered_tokens,
      pieceValues_tokens]
    cases tokens rest <;> simp
  · rw [pieces_text_cons hs.tokens]
    refine isFilled_append ?_ ht.filled
    intro x hx
    obtain ⟨y, hy, heq⟩ := List.mem_map.mp hx
    exact (Piece.token.inj heq) ▸ hs.plain y hy

/-- A text that ends at a seam is read before any template. -/
theorem readable_lead {s : String} {w : List Token} {t : Template} (hs : IsLead s w)
    (ht : Readable t) : Readable (.text s :: t) :=
  readable_text_cons hs.toIsPhrase ht fun _ _ _ => separated_of_endsFree hs.ends

/-- Two templates are read with a separator between them. -/
theorem readable_separated {s : String} {w : List Token} {t u : Template} (hs : IsSeparator s w)
    (ht : Readable t) (hu : Readable u) : Readable (t ++ .text s :: u) :=
  readable_append ht (readable_lead hs.toIsLead hu) (followsFree_text hs.starts u)

/-- A text is read by itself. -/
theorem readable_text {s : String} {w : List Token} (hs : IsPhrase s w) : Readable [.text s] :=
  readable_text_cons hs readable_nil fun _ _ hrest => separated_of_startsFree hrest

/-- A value is read as itself. -/
theorem readable_value (v : Value) : Readable [.value v] := by
  refine ⟨?_, fun _ h => by simp [pieces, Fragment.pieces] at h⟩
  intro bound rest hrest
  rw [show chars bound [.value v] = (placeholder (bound + 1)).toList by simp [chars],
    tokens_append (separated_of_startsFree hrest) (tokens_placeholder _)]
  rfl

/-- A readable template stays readable between brackets. -/
theorem readable_parenthesized {t : Template} (ht : Readable t) : Readable t.parenthesized := by
  have hopen : IsLead "(" [.mark "("] := by decide
  have hclose : IsSeparator ")" [.mark ")"] := by decide
  exact readable_separated (t := .text "(" :: t) hclose (readable_lead hopen ht) readable_nil

theorem pieces_parenthesized (t : Template) :
    t.parenthesized.pieces = .token (.mark "(") :: t.pieces ++ [.token (.mark ")")] := by
  change pieces ((.text "(" :: t) ++ [.text ")"]) = _
  rw [pieces_append, pieces_text_cons (w := [.mark "("]) (by decide),
    pieces_text_cons (w := [.mark ")"]) (by decide)]
  rfl

/-- Readable templates are read one after the other, a separator between each two. -/
theorem readable_joined {separator : String} {w : List Token} (hs : IsSeparator separator w)
    {parts : List Template} (h : ∀ t ∈ parts, Readable t) :
    Readable (joined separator parts) := by
  induction parts with
  | nil => exact readable_nil
  | cons t parts ih =>
      have ht : Readable t := h t (List.mem_cons_self ..)
      have hrest := ih fun u hu => h u (List.mem_cons_of_mem _ hu)
      cases parts with
      | nil => exact ht
      | cons u parts => exact readable_separated hs ht hrest

/-! ## Statements and their clauses -/

/-- Whether a template is read as certain pieces. -/
structure Says (t : Template) (ps : List Piece) : Prop where
  readable : Readable t
  pieces : t.pieces = ps

theorem says_nil : Says [] [] := ⟨readable_nil, rfl⟩

theorem Says.append {t u : Template} {ps qs : List Piece} (ht : Says t ps) (hu : Says u qs)
    (hs : FollowsFree u) : Says (t ++ u) (ps ++ qs) :=
  ⟨readable_append ht.readable hu.readable hs, by rw [pieces_append, ht.pieces, hu.pieces]⟩

/-- A text that ends at a seam says its tokens before what follows. -/
theorem Says.text_cons {s : String} {w : List Token} {t : Template} {ps : List Piece}
    (ht : Says t ps) (hs : IsLead s w) : Says (.text s :: t) (w.map .token ++ ps) :=
  ⟨readable_lead hs ht.readable, by rw [pieces_text_cons hs.tokens, ht.pieces]⟩

theorem says_text {s : String} {w : List Token} (hs : IsPhrase s w) :
    Says [.text s] (w.map .token) := by
  refine ⟨readable_text hs, ?_⟩
  rw [pieces_text_cons hs.tokens]
  exact List.append_nil _

theorem Says.parenthesized {t : Template} {ps : List Piece} (ht : Says t ps) :
    Says t.parenthesized (.token (.mark "(") :: ps ++ [.token (.mark ")")]) :=
  ⟨readable_parenthesized ht.readable, by rw [pieces_parenthesized, ht.pieces]⟩

variable {t : Template}

/-- The text of a readable template is read as its numbered pieces. -/
theorem tokens_statement (h : Readable t) :
    tokens t.statement.sql.toList = some (numbered 0 t.pieces) := by
  have := h.reads 0 [] (by simp [StartsFree])
  simpa [statement, text, tokens, lexemes] using this

/-- **Each parameter of a readable template arrives in the place of its value.** -/
theorem statement_pieces (h : Readable t) : t.statement.pieces = some t.pieces := by
  rw [Statement.pieces, tokens_statement h, Option.bind_some]
  have := fill_numbered [] h.filled
  rwa [pieceValues_pieces] at this

end Template

end EntityMapper.Sql
