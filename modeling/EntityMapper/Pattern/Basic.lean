import EntityMapper.Pattern.Class

/-!
# Patterns and what they match

A pattern is matched by following all matches at once. A position of a text is a place between two
characters, before the first one or after the last one, and a set of positions is a list of truth
values, one for each place. `Pattern.advance` maps the positions at which a match may begin to those
at which it may end. A text matches if a match can begin and end anywhere.
-/

namespace EntityMapper

open Text

namespace Pattern

/-- A condition on a place of a text. -/
inductive Assertion where
  | startText
  | endText
  | startLine
  | endLine
  /-- Where a line begins, if a carriage return and a line feed end a line together. -/
  | startLineCrlf
  /-- Where a line ends, if a carriage return and a line feed end it together. -/
  | endLineCrlf
  /-- Between a character of a word and one of no word. -/
  | wordBoundary (isWord : Char → Bool)
  /-- Between two characters of a word or two of no word. -/
  | notWordBoundary (isWord : Char → Bool)
  | wordStart (isWord : Char → Bool)
  | wordEnd (isWord : Char → Bool)
  /-- After a character of no word. -/
  | wordStartHalf (isWord : Char → Bool)
  /-- Before a character of no word. -/
  | wordEndHalf (isWord : Char → Bool)

/-- Whether there is a character and it is one of a word. -/
def isWordAt (isWord : Char → Bool) (c : Option Char) : Bool := c.any isWord

namespace Assertion

/-- Whether a condition holds between two characters, either of which may be missing at an end of
the text. -/
def holds : Assertion → Option Char → Option Char → Bool
  | .startText, before, _ => before.isNone
  | .endText, _, after => after.isNone
  | .startLine, before, _ => before.isNone || before == some '\n'
  | .endLine, _, after => after.isNone || after == some '\n'
  | .startLineCrlf, before, after =>
    before.isNone || before == some '\n' || (before == some '\r' && after != some '\n')
  | .endLineCrlf, before, after =>
    after.isNone || after == some '\r' || (after == some '\n' && before != some '\r')
  | .wordBoundary w, before, after => isWordAt w before != isWordAt w after
  | .notWordBoundary w, before, after => isWordAt w before == isWordAt w after
  | .wordStart w, before, after => !isWordAt w before && isWordAt w after
  | .wordEnd w, before, after => isWordAt w before && !isWordAt w after
  | .wordStartHalf w, before, _ => !isWordAt w before
  | .wordEndHalf w, _, after => !isWordAt w after

end Assertion

/-- A set of places of a text of so many characters and one more. -/
abbrev Places := List Bool

/-- The places of either set. -/
def Places.union (a b : Places) : Places := List.zipWith (· || ·) a b

/-- The places at which a condition holds. -/
def placesWhere (a : Assertion) (s : List Char) : Places :=
  List.zipWith a.holds (none :: s.map some) (s.map some ++ [none])

/-- The places after one more character of a class. -/
def placesAfter (set : Class) (s : List Char) (starts : Places) : Places :=
  false :: List.zipWith (fun start c => start && set.contains c) starts s

/-- Adds the places that further steps reach, until no step adds one or there were so many steps. -/
def closure (step : Places → Places) : Nat → Places → Places
  | 0, places => places
  | n + 1, places =>
    let grown := places.union (step places)
    if grown == places then places else closure step n grown

end Pattern

/-- A pattern. -/
inductive Pattern where
  | empty
  | one (set : Pattern.Class)
  /-- The empty text where a condition holds. -/
  | assert (a : Pattern.Assertion)
  | seq (p q : Pattern)
  | alt (p q : Pattern)
  /-- A pattern at least so often, and at most so often unless there is no limit. -/
  | repeated (p : Pattern) (least : Nat) (most : Option Nat)

namespace Pattern

/-- The places at which a match that begins at one of some places may end. -/
def advance (s : List Char) : Pattern → Places → Places
  | .empty, starts => starts
  | .one set, starts => placesAfter set s starts
  | .assert a, starts => List.zipWith (· && ·) starts (placesWhere a s)
  | .seq p q, starts => q.advance s (p.advance s starts)
  | .alt p q, starts => (p.advance s starts).union (q.advance s starts)
  | .repeated p least most, starts =>
    let first := Nat.repeat (p.advance s) least starts
    match most with
    | some most => closure (p.advance s) (most - least) first
    | none => closure (p.advance s) (s.length + 1) first

/-- Whether a pattern matches some part of a text. -/
def isMatch (p : Pattern) (s : String) : Bool :=
  (p.advance s.toList (List.replicate (s.toList.length + 1) true)).any id

/-- How many steps a pattern takes when every repetition is written out. -/
def stepCount : Pattern → Nat
  | .empty => 0
  | .one _ | .assert _ => 1
  | .seq p q | .alt p q => p.stepCount + q.stepCount
  | .repeated p least most => p.stepCount * max 1 (most.getD least)

/-- The most steps a pattern may take. -/
def stepLimit : Nat := 327680

/-- Patterns one after the other. -/
def sequence (ps : List Pattern) : Pattern := ps.foldr .seq .empty

/-- Any of some patterns, of which there is at least one. -/
def choice (first : Pattern) (rest : List Pattern) : Pattern := rest.foldl .alt first

end Pattern

end EntityMapper
