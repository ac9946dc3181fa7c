import EntityMapper.Text.Property

/-!
# The direction of labels

Where a domain holds characters that are written from right to left, each of its labels must be of
one direction, so that it reads the same wherever it stands.
-/

namespace EntityMapper.Url

open Text

/-- How a character behaves in running text. -/
inductive Direction where
  | left
  | right
  | europeanNumber
  | arabicNumber
  /-- A mark, which follows the character before it. -/
  | mark
  | neutral
deriving DecidableEq

/-- The characters that are written from right to left, and marks and digits among them. -/
def rightToLeftSet : CodePoints := .ofLines [
    "5be-5f4 608 60b 60d 61b-64a 66d-6d5 6e5-6e6 6ee-6ef 6fa-7f5 7fa-8c9 200f fb1d-fb28 fb2a-fd3d",
    "fd50-fdc7 fdf0-fdfc fe70-fefc 10800-1091b 10920-10b35 10b40-10ff6 1e800-1eebb"]

/-- The digits of Arabic form and their signs. -/
def arabicNumberSet : CodePoints :=
  .ofLines ["600-605 660-669 66b-66c 6dd 890-891 8e2 10d30-10d39 10e60-10e7e"]

/-- The digits of European form. -/
def europeanNumberSet : CodePoints :=
  .ofLines ["30-39 b2-b3 b9 6f0-6f9 2070 2074-2079 2080-2089 102e1-102fb"]

/-- The direction of a character. -/
def Direction.ofChar (c : Char) : Direction :=
  if europeanNumberSet.contains c then .europeanNumber
  else if arabicNumberSet.contains c then .arabicNumber
  else if Category.anyContains [.nonspacingMark, .enclosingMark] c then .mark
  else if rightToLeftSet.contains c then .right
  else if isAlphabetic c || Category.anyContains [.spacingMark, .decimalNumber] c then .left
  else .neutral

/-- Whether a label makes its domain one with right-to-left text. -/
def hasRightToLeft (label : List Char) : Bool :=
  label.any fun c => Direction.ofChar c == .right || Direction.ofChar c == .arabicNumber

/-- Whether a label is of one direction: it begins with a letter, holds nothing of the other
direction, ends, but for marks, in a letter or a digit, and has digits of one form. -/
def isOneDirection (label : List Char) : Bool :=
  let directions := label.map Direction.ofChar
  let last := (directions.reverse.dropWhile (· == .mark)).head?
  match directions with
  | [] => true
  | .left :: _ =>
    directions.all (fun d => d != .right && d != .arabicNumber) &&
      (last == some .left || last == some .europeanNumber)
  | .right :: _ =>
    directions.all (· != .left) && last != some .neutral &&
      !(directions.contains .europeanNumber && directions.contains .arabicNumber)
  | _ => false

end EntityMapper.Url
