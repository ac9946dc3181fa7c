import EntityMapper.Column.Basic
import EntityMapper.Pattern.Reader
import EntityMapper.Url.Basic

/-!
# Checks

A check is a test of a value that a column applies to what is written to it. Those of texts and of
numbers let NULL pass and refuse every other kind of value, so that a column that is to hold a value
has to say so as well.
-/

namespace EntityMapper

open Number Text

/-- A test of a value. -/
abbrev Check := Value → Bool

/-! ## Forms of texts -/

/-- A character of an address of electronic mail: neither white space nor an at sign. -/
def mailChar : Pattern.Class := .compl (.union (.property isBlank) (.single '@'))

/-- One or more characters of an address of electronic mail. -/
def mailPart : Pattern := .repeated (.one mailChar) 1 none

/-- Addresses of electronic mail: an at sign with something on both sides, and a dot after it with
something on both sides. -/
def mailPattern : Pattern :=
  .sequence [.assert .startText, mailPart, .one (.single '@'), mailPart, .one (.single '.'),
    mailPart, .assert .endText]

/-- Whether a text looks like an address of electronic mail. -/
def isEmail (s : String) : Bool := mailPattern.isMatch s

/-- Whether a text is a universally unique identifier. -/
def isUuid (s : String) : Bool := (Uuid.read? s).isSome

namespace Check

/-! ## Checks of texts and numbers -/

/-- Passes NULL and the texts with a property. -/
def onText (p : String → Bool) : Check
  | .null => true
  | .text s => p s
  | _ => false

/-- Passes addresses of electronic mail. -/
def email : Check := onText isEmail

/-- Passes complete addresses of resources. -/
def url : Check := onText isUrl

/-- Passes texts of universally unique identifiers. -/
def uuidString : Check := onText isUuid

/-- Passes texts of so many characters at most. -/
def maxLength (most : Nat) : Check := onText fun s => decide (s.length ≤ most)

/-- A text that is no pattern, or one with too many steps. -/
def invalidPattern (pattern reason : String) : Error :=
  .validation ("invalid regex pattern " ++ quoted pattern ++ ": " ++ reason)

/-- Passes texts of which a part matches a pattern; fails on what is no pattern. -/
def matching (pattern : String) : Except Error Check :=
  match Pattern.read? pattern with
  | none => .error (invalidPattern pattern "regex parse error:")
  | some p =>
    if p.stepCount > Pattern.stepLimit then
      .error (invalidPattern pattern "Compiled regex exceeds size limit of 10485760 bytes.")
    else .ok (onText p.isMatch)

/-- Passes NULL and the numbers between two doubles, both included. -/
def range (least most : Binary64) : Check
  | .null => true
  | v => v.float?.any fun x => least.le x && x.le most

end Check

end EntityMapper
