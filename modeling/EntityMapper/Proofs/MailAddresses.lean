import EntityMapper.Check
import EntityMapper.Proofs.Matching

/-!
# Addresses of electronic mail

The check of addresses is a pattern in which the dot may be split off in several ways, since it is
one of the characters on both sides of it as well. `IsMailAddress` says what an address is without
any choice, and `email_accepts_grammar` that the check passes just that: no white space, one at
sign with something before it, and after it a dot that neither begins nor ends what stands there.
-/

namespace EntityMapper

open Pattern Text

/-- Whether a text is an address of electronic mail. -/
structure IsMailAddress (s : List Char) : Prop where
  unbroken : ∀ c ∈ s, isBlank c = false
  single : s.count '@' = 1
  parts : ∃ user host, s = user ++ '@' :: host ∧ user ≠ [] ∧
    ∃ k : Nat, host[k]? = some '.' ∧ k ≠ 0 ∧ k + 1 ≠ host.length

/-- The pattern of addresses whose parts are made of a class. -/
def addressPattern (set : Pattern.Class) : Pattern :=
  .sequence [.assert .startText, .repeated (.one set) 1 none, .one (.single '@'),
    .repeated (.one set) 1 none, .one (.single '.'), .repeated (.one set) 1 none, .assert .endText]

/-! ## Classes -/

namespace Pattern.Class

/-- Whether a class holds what may stand in a part of an address. -/
def IsMail (set : Class) : Prop :=
  ∀ c, set.contains c = true ↔ isBlank c = false ∧ c ≠ '@'

/-- Whether a part of a text is made of characters of a class, and of at least one. -/
def Fills (set : Class) (part : List Char) : Prop :=
  part ≠ [] ∧ ∀ c ∈ part, set.contains c = true

theorem contains_single (c d : Char) : (single c).contains d = (d == c) := by
  rw [single, contains, Bool.eq_iff_iff, decide_eq_true_iff, beq_iff_eq]
  exact ⟨fun h => Char.le_antisymm h.2 h.1, fun h => h ▸ ⟨Char.le_refl _, Char.le_refl _⟩⟩

/-- No character is outside the class of all. -/
theorem contains_all (c : Char) : all.contains c = true := by
  have hmost : c.toNat ≤ 0x10FFFF := by
    rcases c.valid with h | ⟨-, h⟩
    · exact Nat.le_trans (Nat.le_of_lt h) (by decide)
    · exact Nat.le_of_lt_succ h
  rw [all, contains, decide_eq_true_iff]
  exact ⟨Nat.zero_le _, hmost⟩

theorem isMail_mailChar : mailChar.IsMail := by
  intro c
  simp only [mailChar, contains, contains_single, Bool.not_eq_true', Bool.or_eq_false_iff,
    beq_eq_false_iff_ne]

/-- The class as it is read: neither an at sign, nor white space, nor outside everything. -/
theorem isMail_readClass :
    (compl (.union (.single '@') (.union (.property isBlank) .none))).IsMail := by
  intro c
  simp only [Class.none, contains, contains_single, contains_all, Bool.not_true, Bool.or_false,
    Bool.not_eq_true', Bool.or_eq_false_iff, beq_eq_false_iff_ne]
  exact and_comm

end Pattern.Class

variable {set : Pattern.Class} {s before part after : List Char} {n : Nat}

/-- Whether a text can be split at an at sign and at a dot behind it, so that its three parts are
made of a class. -/
def IsSplitBy (set : Pattern.Class) (s : List Char) : Prop :=
  ∃ x y z, s = x ++ '@' :: (y ++ '.' :: z) ∧ set.Fills x ∧ set.Fills y ∧ set.Fills z

/-! ## What the pattern matches -/

/-- Repetitions of one character are a text of such characters. -/
theorem times_one : (Pattern.one set).Matches.times n before part after ↔
    part.length = n ∧ ∀ c ∈ part, set.contains c = true := by
  induction n generalizing before part with
  | zero =>
      rw [List.length_eq_zero_iff]
      constructor
      · rintro rfl
        exact ⟨rfl, nofun⟩
      · exact And.left
  | succ n ih =>
      constructor
      · rintro ⟨_, rest, rfl, ⟨c, rfl, hc⟩, hrest⟩
        obtain ⟨hlength, hall⟩ := ih.mp hrest
        exact ⟨congrArg Nat.succ hlength, List.forall_mem_cons.mpr ⟨hc, hall⟩⟩
      · rintro ⟨hlength, hall⟩
        obtain ⟨c, rest, rfl⟩ := List.exists_cons_of_length_eq_add_one hlength
        obtain ⟨hc, hrest⟩ := List.forall_mem_cons.mp hall
        exact ⟨[c], rest, rfl, ⟨c, rfl, hc⟩, ih.mpr ⟨Nat.succ.inj hlength, hrest⟩⟩

theorem matches_oneOrMore :
    (Pattern.repeated (.one set) 1 none).Matches before part after ↔ set.Fills part := by
  constructor
  · rintro ⟨n, ⟨hn, -⟩, h⟩
    obtain ⟨hlength, hall⟩ := times_one.mp h
    exact ⟨List.length_pos_iff.mp (by omega), hall⟩
  · rintro ⟨hne, hall⟩
    exact ⟨part.length, ⟨List.length_pos_iff.mpr hne, nofun⟩, times_one.mpr ⟨rfl, hall⟩⟩

/-- **The pattern splits a text at an at sign and at a dot behind it.** -/
theorem isMatch_addressPattern {s : String} :
    (addressPattern set).isMatch s = true ↔ IsSplitBy set s.toList := by
  rw [isMatch_iff]
  constructor
  · rintro ⟨before, part, after, hs, hmatches⟩
    obtain ⟨_, _, rfl, ⟨rfl, hstart⟩, x, _, rfl, hx, _, _, rfl, ⟨c, rfl, hat⟩, y, _, rfl, hy,
      _, _, rfl, ⟨d, rfl, hdot⟩, z, _, rfl, hz, _, _, rfl, ⟨rfl, hend⟩, rfl⟩ := hmatches
    -- the two conditions leave nothing before the match and after it
    have hbefore : before = [] := List.getLast?_eq_none_iff.mp (Option.isNone_iff_eq_none.mp hstart)
    have hafter : after = [] := List.head?_eq_none_iff.mp (Option.isNone_iff_eq_none.mp hend)
    rw [Pattern.Class.contains_single, beq_iff_eq] at hat hdot
    subst hbefore hafter hat hdot
    refine ⟨x, y, z, ?_, matches_oneOrMore.mp hx, matches_oneOrMore.mp hy,
      matches_oneOrMore.mp hz⟩
    rw [hs]
    simp only [List.append_nil, List.nil_append, List.singleton_append]
  · rintro ⟨x, y, z, hs, hx, hy, hz⟩
    have hsame : ∀ c, (Pattern.Class.single c).contains c = true := fun c => by
      rw [Pattern.Class.contains_single, beq_self_eq_true]
    refine ⟨[], s.toList, [], by rw [List.nil_append, List.append_nil],
      [], _, rfl, ⟨rfl, rfl⟩, x, '@' :: (y ++ '.' :: z), hs, matches_oneOrMore.mpr hx,
      ['@'], _, rfl, ⟨'@', rfl, hsame _⟩, y, _, rfl, matches_oneOrMore.mpr hy,
      ['.'], z, rfl, ⟨'.', rfl, hsame _⟩, z, [], (List.append_nil z).symm,
      matches_oneOrMore.mpr hz, [], [], rfl, ⟨rfl, rfl⟩, rfl⟩

/-! ## Addresses -/

/-- Around its at sign an address has no other. -/
theorem not_mem_of_count {user host : List Char} (h : (user ++ '@' :: host).count '@' = 1) :
    '@' ∉ user ∧ '@' ∉ host := by
  rw [List.count_append, List.count_cons_self] at h
  exact ⟨List.count_eq_zero.mp (by omega), List.count_eq_zero.mp (by omega)⟩

/-- An address is split at any dot that neither begins nor ends what stands behind its at sign. -/
theorem IsMailAddress.isSplitBy (hset : set.IsMail) (h : IsMailAddress s) : IsSplitBy set s := by
  obtain ⟨user, host, rfl, huser, k, hdot, hk, hlast⟩ := h.parts
  obtain ⟨hlt, hdot⟩ := List.getElem?_eq_some_iff.mp hdot
  have hhost : host = host.take k ++ '.' :: host.drop (k + 1) := by
    rw [← hdot, List.getElem_cons_drop, List.take_append_drop]
  obtain ⟨hat, hat'⟩ := not_mem_of_count h.single
  have hinUser : ∀ c ∈ user, set.contains c = true := fun c hc =>
    (hset c).mpr ⟨h.unbroken c (List.mem_append_left _ hc), fun heq => hat (heq ▸ hc)⟩
  have hinHost : ∀ c ∈ host, set.contains c = true := fun c hc =>
    (hset c).mpr ⟨h.unbroken c (List.mem_append_right _ (List.mem_cons_of_mem _ hc)),
      fun heq => hat' (heq ▸ hc)⟩
  refine ⟨user, host.take k, host.drop (k + 1), by rw [← hhost], ⟨huser, hinUser⟩,
    ⟨?_, fun c hc => hinHost c (List.mem_of_mem_take hc)⟩,
    ?_, fun c hc => hinHost c (List.mem_of_mem_drop hc)⟩
  · rw [← List.length_pos_iff, List.length_take]
    omega
  · rw [← List.length_pos_iff, List.length_drop]
    omega

/-- However a text can be split, it is an address. -/
theorem IsSplitBy.isMailAddress (hset : set.IsMail) (h : IsSplitBy set s) : IsMailAddress s := by
  obtain ⟨x, y, z, rfl, ⟨hx, hinX⟩, ⟨hy, hinY⟩, hz, hinZ⟩ := h
  have hcount : ∀ {part : List Char}, (∀ c ∈ part, set.contains c = true) → part.count '@' = 0 :=
    fun hin => List.count_eq_zero.mpr fun hmem => ((hset '@').mp (hin '@' hmem)).2 rfl
  refine ⟨?_, ?_, x, y ++ '.' :: z, rfl, hx, y.length, ?_, ?_, ?_⟩
  · simp only [List.mem_append, List.mem_cons]
    rintro c (hc | rfl | hc | rfl | hc)
    · exact ((hset c).mp (hinX c hc)).1
    · decide
    · exact ((hset c).mp (hinY c hc)).1
    · decide
    · exact ((hset c).mp (hinZ c hc)).1
  · rw [List.count_append, List.count_cons_self, List.count_append,
      List.count_cons_of_ne (by decide), hcount hinX, hcount hinY, hcount hinZ]
  · rw [List.getElem?_append_right (Nat.le_refl _), Nat.sub_self]
    rfl
  · exact Nat.ne_of_gt (List.length_pos_iff.mpr hy)
  · have hpos := List.length_pos_iff.mpr hz
    rw [List.length_append, List.length_cons]
    omega

/-- Whatever class the pattern is made of, if it is the right one, it matches addresses. -/
theorem isMatch_iff_isMailAddress (hset : set.IsMail) (s : String) :
    (addressPattern set).isMatch s = true ↔ IsMailAddress s.toList := by
  rw [isMatch_addressPattern]
  exact ⟨fun h => h.isMailAddress hset, fun h => h.isSplitBy hset⟩

/-- The pattern of the check is read from this text. -/
theorem matching_mail :
    Check.matching "^[^\\s@]+@[^\\s@]+\\.[^\\s@]+$" = .ok Check.email := by
  have hsame : ∀ s, (addressPattern (.compl (.union (.single '@')
      (.union (.property isBlank) .none)))).isMatch s = isEmail s := by
    intro s
    rw [Bool.eq_iff_iff, isMatch_iff_isMailAddress Pattern.Class.isMail_readClass]
    exact (isMatch_iff_isMailAddress Pattern.Class.isMail_mailChar s).symm
  rw [Check.email, ← funext hsame]
  rfl

/-- **The check of addresses of electronic mail accepts exactly its grammar.**

A text passes if and only if it has no white space, one at sign with something before it, and after
it a dot that is neither the first nor the last character there. Of all values the check passes the
texts that are such addresses, and NULL. It is the check of the pattern that is written here. -/
theorem email_accepts_grammar :
    (∀ s : String, isEmail s = true ↔ IsMailAddress s.toList) ∧
      (∀ v : Value, Check.email v = true ↔
        v = .null ∨ ∃ s : String, v = .text s ∧ IsMailAddress s.toList) ∧
      Check.matching "^[^\\s@]+@[^\\s@]+\\.[^\\s@]+$" = .ok Check.email := by
  have htext : ∀ s : String, isEmail s = true ↔ IsMailAddress s.toList :=
    isMatch_iff_isMailAddress Pattern.Class.isMail_mailChar
  refine ⟨htext, fun v => ?_, matching_mail⟩
  cases v with
  | null => exact iff_of_true rfl (.inl rfl)
  | text s =>
      rw [Check.email, Check.onText, htext]
      simp
  | _ => simp [Check.email, Check.onText]

end EntityMapper
