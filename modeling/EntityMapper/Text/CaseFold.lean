import EntityMapper.Text.LowerCase

/-!
# Matching without regard to case

Two characters match each other if they have the same key. The key is the lower case, except for a
few characters that have a lower case of their own and still match another one.
-/

namespace EntityMapper.Text

/-- Lower-case characters that match another lower-case character. -/
def foldExceptions : List (Nat × Nat) := [
  (0x17F, 0x73), (0xB5, 0x3BC), (0x345, 0x3B9), (0x1FBE, 0x3B9), (0x1FD3, 0x390),
  (0x3D0, 0x3B2), (0x3F5, 0x3B5), (0x3D1, 0x3B8), (0x3F0, 0x3BA), (0x3D6, 0x3C0),
  (0x3F1, 0x3C1), (0x3C2, 0x3C3), (0x3D5, 0x3C6), (0x1FE3, 0x3B0), (0x1C80, 0x432),
  (0x1C81, 0x434), (0x1C82, 0x43E), (0x1C83, 0x441), (0x1C84, 0x442), (0x1C85, 0x442),
  (0x1C86, 0x44A), (0x1C87, 0x463), (0x1C88, 0xA64B), (0x1E9B, 0x1E61), (0xFB06, 0xFB05)]

/-- The lower case of a character, if it is a single character that the runs of capitals give. -/
def simpleLower (n : Nat) : Nat :=
  match caseRuns.find? (·.contains n) with
  | some run => (n + run.shift).toNat
  | none => n

/-- The key that characters share if they match each other. -/
def foldKey (n : Nat) : Nat :=
  let lowered := simpleLower n
  ((foldExceptions.find? fun (lower, _) => lower == lowered).map (·.2)).getD lowered

/-- The capitals whose lower case is a code point. -/
def capitalsOf (n : Nat) : List Nat :=
  (caseRuns.map fun run => ((n : Int) - run.shift).toNat).filter fun m => simpleLower m == n

/-- The characters that match a character without regard to case, itself among them. -/
def caseVariants (c : Char) : List Char :=
  let key := foldKey c.toNat
  let lowers := key :: (foldExceptions.filter fun (_, target) => target == key).map (·.1)
  (lowers ++ lowers.flatMap capitalsOf).map Char.ofNat

end EntityMapper.Text
