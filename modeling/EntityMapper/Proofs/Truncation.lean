import EntityMapper.Client.Log

/-!
# What is left of a long statement

A logged statement is cut at a number of bytes, which may be inside a character. The cut then goes
back to where that character begins. `IsCut` says what may be left of a text, and
`truncation_safe_and_tight` that what is left is the longest text of this kind, so a cut neither
splits a character nor takes more than it has to.
-/

namespace EntityMapper

open String (Pos)
open Sql (Statement)

variable {s t u : String} {n max : Nat}

/-- Whether a text may be left of another one: it is the beginning up to a place between two
characters, and has at most `max` bytes. -/
structure IsCut (max : Nat) (s t : String) : Prop where
  begins : ∃ rest, s = t ++ rest
  ends : (⟨t.utf8ByteSize⟩ : Pos.Raw).IsValid s
  fits : t.utf8ByteSize ≤ max

/-! ## Going back to a boundary -/

/-- The place that is gone back to is not behind the one where that starts. -/
theorem boundaryBefore_le (s : String) (n : Nat) : (boundaryBefore s n).offset.byteIdx ≤ n := by
  induction n with
  | zero => exact Nat.le_refl 0
  | succ n ih =>
      rw [boundaryBefore]
      split
      · exact Nat.le_refl (n + 1)
      · exact Nat.le_succ_of_le ih

/-- **No boundary is skipped on the way back.** -/
theorem le_boundaryBefore {p : s.Pos} (hp : p.offset.byteIdx ≤ n) :
    p.offset.byteIdx ≤ (boundaryBefore s n).offset.byteIdx := by
  induction n with
  | zero => exact hp
  | succ n ih =>
      rw [boundaryBefore]
      split
      · exact hp
      · rename_i hinside
        -- the place is a boundary, so it is not the one inside a character
        have hne : p.offset.byteIdx ≠ n + 1 := by
          intro heq
          have hsame : p.offset = ⟨n + 1⟩ := Pos.Raw.ext heq
          exact hinside (hsame ▸ p.isValid)
        exact ih (by omega)

/-! ## Beginnings of a text -/

/-- Of two beginnings the one with fewer bytes is a beginning of the other. -/
theorem exists_append_of_size_le {rest rest' : String} (ht : s = t ++ rest) (hu : s = u ++ rest')
    (hle : t.utf8ByteSize ≤ u.utf8ByteSize) : ∃ more, u = t ++ more := by
  have hboth : t.toList ++ rest.toList = u.toList ++ rest'.toList := by
    rw [← String.toList_append, ← String.toList_append, ← ht, ← hu]
  rcases List.append_eq_append_iff.mp hboth with ⟨more, hmore, -⟩ | ⟨more, hmore, -⟩
  · refine ⟨String.ofList more, String.toList_inj.mp ?_⟩
    rw [String.toList_append, String.toList_ofList, hmore]
  · -- the one with fewer bytes goes on behind the other, so by nothing
    have hsame : t = u ++ String.ofList more := by
      rw [← String.toList_inj, String.toList_append, String.toList_ofList, hmore]
    have hnone : (String.ofList more).utf8ByteSize = 0 := by
      have hsize := congrArg String.utf8ByteSize hsame
      rw [String.utf8ByteSize_append] at hsize
      omega
    rw [String.utf8ByteSize_eq_zero_iff] at hnone
    exact ⟨"", by rw [hsame, hnone, String.append_empty, String.append_empty]⟩

/-- What comes before a place is a cut. -/
theorem isCut_sliceTo {p : s.Pos} (hp : p.offset.byteIdx ≤ max) :
    IsCut max s (s.sliceTo p).copy := by
  have hsize : (s.sliceTo p).copy.utf8ByteSize = p.offset.byteIdx := by
    rw [String.Slice.utf8ByteSize_copy, String.utf8ByteSize_sliceTo]
  refine ⟨⟨_, p.splits.eq_append⟩, ?_, hsize ▸ hp⟩
  rw [hsize]
  exact p.isValid

theorem isCut_truncateBytes (max : Nat) (s : String) : IsCut max s (truncateBytes max s) := by
  rw [truncateBytes]
  split
  · rename_i hfits
    exact ⟨⟨"", String.append_empty.symm⟩, Pos.Raw.isValid_rawEndPos, hfits⟩
  · exact isCut_sliceTo (boundaryBefore_le s max)

/-- **No cut is longer.** -/
theorem IsCut.size_le (h : IsCut max s t) :
    t.utf8ByteSize ≤ (truncateBytes max s).utf8ByteSize := by
  rw [truncateBytes]
  split
  · exact h.ends.le_utf8ByteSize
  · rw [String.Slice.utf8ByteSize_copy, String.utf8ByteSize_sliceTo]
    exact le_boundaryBefore (p := s.pos _ h.ends) h.fits

/-- **A cut is safe and tight.**

For every text and every limit, what is left is a beginning of the text that ends between two
characters and has no more bytes than allowed, and every such beginning is a beginning of it. So
the log has a statement as it is if it has no more bytes than allowed, and otherwise the longest
such beginning with three dots. -/
theorem truncation_safe_and_tight (max : Nat) (sql : String) :
    IsCut max sql (truncateBytes max sql) ∧
      (∀ t, IsCut max sql t → ∃ more, truncateBytes max sql = t ++ more) ∧
      ∀ (config : Config) (entity : String) (kind : StatementKind) (s : Statement),
        config.maxSqlLogLength = max → s.sql = sql →
          statementEntry config entity kind s = .statement entity kind s.params.length
            (if sql.utf8ByteSize ≤ max then sql else truncateBytes max sql ++ "...") := by
  have hcut := isCut_truncateBytes max sql
  refine ⟨hcut, fun t ht => ?_, fun config entity kind s hmax hsql => ?_⟩
  · obtain ⟨rest, hrest⟩ := ht.begins
    obtain ⟨rest', hrest'⟩ := hcut.begins
    exact exists_append_of_size_le hrest hrest' ht.size_le
  · rw [statementEntry, loggedSql, hmax, hsql]

/-- The limit is inside the last character, which has four bytes. -/
theorem truncation_safe_and_tight_emoji :
    let sql := "DELETE FROM t WHERE t.é = '🦀"
    truncateBytes 31 sql = "DELETE FROM t WHERE t.é = '" ∧
      IsCut 31 sql (truncateBytes 31 sql) ∧
      ∃ more, truncateBytes 31 sql = "DELETE FROM t WHERE t.é" ++ more := by
  intro sql
  obtain ⟨hcut, htight, -⟩ := truncation_safe_and_tight 31 sql
  have hshorter : IsCut 31 sql "DELETE FROM t WHERE t.é" :=
    ⟨⟨" = '🦀", rfl⟩, by decide, by decide⟩
  exact ⟨by decide, hcut, htight _ hshorter⟩

end EntityMapper
