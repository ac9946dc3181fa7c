import EntityMapper.Text.CaseFold

/-!
# Character classes

A class is a set of characters, written with ranges, properties and set operations.
-/

namespace EntityMapper.Pattern

open Text

/-- A set of characters. -/
inductive Class where
  | range (first last : Char)
  | table (set : CodePoints)
  | property (holds : Char → Bool)
  | union (a b : Class)
  | inter (a b : Class)
  /-- The characters of the first that are not in the second. -/
  | diff (a b : Class)
  | symmDiff (a b : Class)
  | compl (a : Class)
  /-- The characters that match one of the class without regard to case. -/
  | caseless (a : Class)

namespace Class

/-- Whether a class holds a character. -/
def contains : Class → Char → Bool
  | .range first last, c => decide (first ≤ c ∧ c ≤ last)
  | .table set, c => set.contains c
  | .property holds, c => holds c
  | .union a b, c => a.contains c || b.contains c
  | .inter a b, c => a.contains c && b.contains c
  | .diff a b, c => a.contains c && !b.contains c
  | .symmDiff a b, c => a.contains c != b.contains c
  | .compl a, c => !a.contains c
  | .caseless a, c => a.contains c || (caseVariants c).any a.contains

/-- The class of one character. -/
def single (c : Char) : Class := .range c c

/-- The class of all characters. -/
def all : Class := .range (Char.ofNat 0) (Char.ofNat 0x10FFFF)

/-- The class of no character. -/
def none : Class := .compl all

/-- The class of some characters. -/
def ofChars (chars : List Char) : Class := chars.foldr (fun c rest => .union (single c) rest) none

/-- The union of classes. -/
def unions (classes : List Class) : Class := classes.foldr .union none

/-- The class, or all other characters. -/
def negatedIf (negated : Bool) (a : Class) : Class := if negated then .compl a else a

/-- The class, or what matches it without regard to case. -/
def caselessIf (ignoresCase : Bool) (a : Class) : Class := if ignoresCase then .caseless a else a

end Class

end EntityMapper.Pattern
