import EntityMapper.Number.Power
import EntityMapper.Pattern.Basic
import EntityMapper.Pattern.Property

/-!
# Reading patterns

The reader goes over the text once and gives the pattern or nothing. It carries the flags, which a
group can set for what follows inside it, and the names of groups, which have to differ. There are
no references to earlier groups and no conditions on what stands around a match.
-/

namespace EntityMapper.Pattern

open Text

/-- What can be switched on and off inside a pattern. -/
structure Flags where
  /-- Letters match in either case. -/
  ignoresCase : Bool := false
  /-- The ends of lines count as ends of the text. -/
  multiLine : Bool := false
  /-- The dot matches the end of a line. -/
  dotAll : Bool := false
  /-- A carriage return ends a line as well. -/
  crlf : Bool := false
  /-- Classes hold the characters of all scripts. -/
  unicode : Bool := true
  /-- Blanks and comments are skipped. -/
  extended : Bool := false

/-- Where the reader is. -/
structure Cursor where
  rest : List Char
  flags : Flags := ⟨false, false, false, false, true, false⟩
  /-- The names of the groups so far. -/
  names : List String := []

/-- A step of the reader. -/
abbrev Reader (α : Type) := StateT Cursor Option α

/-! ## Moving on -/

/-- What is left without blanks and comments. -/
def dropIgnored (inComment : Bool) : List Char → List Char
  | [] => []
  | c :: rest =>
    if inComment then dropIgnored (c != '\n') rest
    else if isBlank c then dropIgnored false rest
    else if c = '#' then dropIgnored true rest
    else c :: rest

/-- What is left without what the flags say to skip. -/
def Flags.drop (flags : Flags) (rest : List Char) : List Char :=
  if flags.extended then dropIgnored false rest else rest

/-- Skips blanks and comments, if the flags say so. -/
def skip : Reader Unit := modify fun c => { c with rest := c.flags.drop c.rest }

/-- The next character, if there is one. -/
def next? : Reader (Option Char) := return (← get).rest.head?

/-- The next character; fails at the end. -/
def next : Reader Char := fun c => c.rest.head?.map (·, c)

/-- Passes one character. -/
def pass : Reader Unit := modify fun c => { c with rest := c.rest.tail }

/-- Passes one character and what may be skipped after it. -/
def passAndSkip : Reader Unit := do pass; skip

/-- Passes one character if it is the next one, and tells whether it was. -/
def passIf (c : Char) : Reader Bool := do
  if (← next?) = some c then pass; return true else return false

/-- Passes one character, which has to be the next one. -/
def expect (c : Char) : Reader Unit := do
  if ← passIf c then return () else failure

/-- Takes the characters before one that has to follow, and passes that one. -/
def takeBefore (stop : Char) : Reader (List Char) := do
  let c ← get
  let taken := c.rest.takeWhile (· != stop)
  set { c with rest := c.rest.drop taken.length }
  expect stop
  return if c.flags.extended then taken.filter fun c => !isBlank c else taken

/-! ## Escapes -/

/-- What an escape or a plain character stands for. -/
inductive Piece where
  | literal (c : Char)
  | set (set : Class)
  | assertion (a : Assertion)

/-- The character of a code point, if there is one. -/
def scalar? (n : Nat) : Option Char := if n.isValidChar then some (Char.ofNat n) else none

/-- Reads so many hexadecimal digits. -/
def readHexDigits (n : Nat) : Nat → Reader Nat
  | 0 => return n
  | count + 1 => do
    let digit ← liftM (hexValue? (← next))
    passAndSkip
    readHexDigits (16 * n + digit) count

/-- Reads the code point of an escape with so many digits, or any number of them in braces. -/
def readHex (count : Nat) : Reader Char := do
  if ← passIf '\x7b' then
    skip
    let digits ← takeBefore '\x7d'
    if digits.isEmpty then failure
    let n ← liftM (hexNumber? digits)
    liftM (scalar? n)
  else
    let n ← readHexDigits 0 count
    liftM (scalar? n)

/-- Splits a text before the first place where another one stands, and drops that one. -/
def splitAt? (mark : List Char) (before : List Char) : List Char → Option (String × String)
  | [] => none
  | c :: rest =>
    if mark.isPrefixOf (c :: rest) then
      some (String.ofList before.reverse, String.ofList ((c :: rest).drop mark.length))
    else splitAt? mark (c :: before) rest

/-- The class of what stands in the braces of a property. -/
def bracedClass? (content : List Char) : Option Class :=
  match splitAt? ['!', '='] [] content with
  | some (property, value) => (classValued? property value).map .compl
  | none =>
    match splitAt? [':'] [] content <|> splitAt? ['='] [] content with
    | some (property, value) => classValued? property value
    | none => classNamed? (String.ofList content)

/-- Reads the name of a property, whose letter is passed. -/
def readProperty (negated : Bool) : Reader Class := do
  let flags := (← get).flags
  if !flags.unicode then failure
  let set ← if ← passIf '\x7b' then do
      skip
      liftM (bracedClass? (← takeBefore '\x7d'))
    else do
      let c ← next
      if c = '\\' then failure
      passAndSkip
      liftM (classNamed? (String.ofList [c]))
  return (set.caselessIf flags.ignoresCase).negatedIf negated

/-- The characters of a word, among ASCII characters. -/
def isAsciiWord (c : Char) : Bool := c.isAlphanum || c == '_'

/-- Whether a character is one of a word, as the flags say. -/
def Flags.isWord (flags : Flags) : Char → Bool :=
  if flags.unicode then isWordChar else isAsciiWord

/-- The class of digits, blanks or words, by its letter; a capital stands for all other characters,
which only all scripts have. -/
def shortClass? (flags : Flags) (letter : Char) : Option Class :=
  let negated := letter.isUpper
  let set : Class := match letter.toLower with
    | 'd' => if flags.unicode then .property isDecimalDigit else .range '0' '9'
    | 's' => if flags.unicode then .property isBlank else .union (.range '\t' '\r') (.single ' ')
    | _ => .property flags.isWord
  if negated && !flags.unicode then none else some (set.negatedIf negated)

/-- The characters that mean something in a pattern. -/
def isMeta (c : Char) : Bool :=
  ['\\', '.', '+', '*', '?', '(', ')', '|', '[', ']', '\x7b', '\x7d', '^', '$', '#', '&', '-',
    '~'].contains c

/-- Whether a backslash before a character leaves it as it is. -/
def isEscapable (c : Char) : Bool :=
  isMeta c || (c.toNat < 0x80 && !c.isAlphanum && c != '<' && c != '>')

/-- The condition of a name in the braces after the letter of a word boundary. -/
def boundaryNamed? (isWord : Char → Bool) : List Char → Option Assertion
  | ['s', 't', 'a', 'r', 't'] => some (.wordStart isWord)
  | ['e', 'n', 'd'] => some (.wordEnd isWord)
  | ['s', 't', 'a', 'r', 't', '-', 'h', 'a', 'l', 'f'] => some (.wordStartHalf isWord)
  | ['e', 'n', 'd', '-', 'h', 'a', 'l', 'f'] => some (.wordEndHalf isWord)
  | _ => none

/-- Whether a character can be part of the name of a condition. -/
def isBoundaryChar (c : Char) : Bool := c.isAlpha || c == '-'

/-- Reads what follows the letter of a word boundary. Braces that hold no name are left, as they may
be a repetition. -/
def readBoundary : Reader Assertion := do
  let c ← get
  let isWord := c.flags.isWord
  match c.rest with
  | '\x7b' :: inside =>
    match c.flags.drop inside with
    | [] => failure
    | first :: _ =>
      if isBoundaryChar first then
        passAndSkip
        liftM (boundaryNamed? isWord (← takeBefore '\x7d'))
      else return .wordBoundary isWord
  | _ => return .wordBoundary isWord

/-- Reads an escape, whose backslash is passed. -/
def readEscape : Reader Piece := do
  let flags := (← get).flags
  let c ← next
  if c.isDigit then failure
  match c with
  | 'x' => passAndSkip; return .literal (← readHex 2)
  | 'u' => passAndSkip; return .literal (← readHex 4)
  | 'U' => passAndSkip; return .literal (← readHex 8)
  | 'p' => passAndSkip; return .set (← readProperty false)
  | 'P' => passAndSkip; return .set (← readProperty true)
  | 'd' | 's' | 'w' | 'D' | 'S' | 'W' => pass; return .set (← liftM (shortClass? flags c))
  | 'a' => pass; return .literal (Char.ofNat 0x07)
  | 'f' => pass; return .literal (Char.ofNat 0x0C)
  | 't' => pass; return .literal '\t'
  | 'n' => pass; return .literal '\n'
  | 'r' => pass; return .literal '\r'
  | 'v' => pass; return .literal (Char.ofNat 0x0B)
  | 'A' => pass; return .assertion .startText
  | 'z' => pass; return .assertion .endText
  | 'b' => pass; return .assertion (← readBoundary)
  | 'B' => pass; return .assertion (.notWordBoundary flags.isWord)
  | '<' => pass; return .assertion (.wordStart flags.isWord)
  | '>' => pass; return .assertion (.wordEnd flags.isWord)
  | _ => if isEscapable c then pass; return .literal c else failure

/-! ## Classes in brackets -/

/-- Reads a character or an escape inside brackets. -/
def readSetPiece : Reader Piece := do
  let c ← next
  pass
  if c = '\\' then readEscape else return .literal c

/-- The class of a character, unless it is beyond ASCII where only that is allowed. -/
def literalClass? (flags : Flags) (c : Char) : Option Class :=
  if flags.unicode || c.toNat < 0x80 then some (.single c) else none

/-- Reads a character, a range or a class inside brackets. -/
def readSetRange : Reader Class := do
  let first ← readSetPiece
  skip
  let cursor ← get
  let flags := cursor.flags
  let following := (flags.drop cursor.rest.tail).head?
  if (← next) != '-' || following = some ']' || following = some '-' then
    match first with
    | .literal c => liftM (literalClass? flags c)
    | .set set => return set
    | .assertion _ => failure
  else
    passAndSkip
    let last ← readSetPiece
    match first, last with
    | .literal a, .literal b =>
      if a ≤ b && (flags.unicode || b.toNat < 0x80) then return .range a b else failure
    | _, _ => failure

/-- An operation between two classes. -/
inductive SetOp where
  | inter
  | diff
  | symmDiff

/-- The class of an operation. -/
def SetOp.apply : SetOp → Class → Class → Class
  | .inter => .inter
  | .diff => .diff
  | .symmDiff => .symmDiff

/-- The class on the left of what is read, with the operation that waits for it. -/
abbrev Pending := Option (Class × SetOp)

/-- Ends a union: applies the operation that waits for it. -/
def closeUnion (flags : Flags) (pending : Pending) (items : List Class) : Class :=
  match pending with
  | none => .unions items
  | some (left, op) =>
    op.apply (left.caselessIf flags.ignoresCase) ((Class.unions items).caselessIf flags.ignoresCase)

/-- The operation that two characters stand for. -/
def setOp? : List Char → Option SetOp
  | '&' :: '&' :: _ => some .inter
  | '-' :: '-' :: _ => some .diff
  | '~' :: '~' :: _ => some .symmDiff
  | _ => none

/-- An ASCII class such as `[:alpha:]` at the front, and what follows it. -/
def asciiClassAt? : List Char → Option (Class × List Char)
  | '[' :: ':' :: rest =>
    let (negated, rest) := match rest with
      | '^' :: rest => (true, rest)
      | rest => (false, rest)
    let name := rest.takeWhile (· != ':')
    match rest.drop name.length with
    | ':' :: ']' :: after => (asciiClass? name).map fun set => (set.negatedIf negated, after)
    | _ => none
  | _ => none

/-- Passes hyphens at the front of a class; each stands for itself. -/
def readHyphens (items : List Class) : Nat → Reader (List Class)
  | 0 => return items
  | n + 1 => do
    if (← next) = '-' then
      passAndSkip
      readHyphens (.single '-' :: items) n
    else return items

mutual

/-- Reads a class in brackets. -/
def readSet (fuel : Nat) : Reader Class := do
  match fuel with
  | 0 => failure
  | fuel + 1 =>
    passAndSkip
    let negated := (← next) = '^'
    if negated then passAndSkip
    let cursor ← get
    let items ← readHyphens [] cursor.rest.length
    -- a bracket right behind the opening one stands for itself
    if items.isEmpty && (← next) = ']' then
      passAndSkip
      let set ← readSetBody fuel none [.single ']']
      finish cursor.flags negated set
    else
      let set ← readSetBody fuel none items
      finish cursor.flags negated set
where
  /-- Applies the flags and the negation. -/
  finish (flags : Flags) (negated : Bool) (set : Class) : Reader Class :=
    if negated && !flags.unicode then failure
    else return (set.caselessIf flags.ignoresCase).negatedIf negated

/-- Reads what is left of a class in brackets and passes the closing one. -/
def readSetBody (fuel : Nat) (pending : Pending) (items : List Class) : Reader Class := do
  match fuel with
  | 0 => failure
  | fuel + 1 =>
    skip
    let cursor ← get
    match cursor.rest with
    | [] => failure
    | ']' :: _ => pass; return closeUnion cursor.flags pending items
    | '[' :: _ =>
      match asciiClassAt? cursor.rest with
      | some (set, after) =>
        modify fun c => { c with rest := after }
        readSetBody fuel pending (set :: items)
      | none =>
        let nested ← readSet fuel
        readSetBody fuel pending (nested :: items)
    | rest =>
      match setOp? rest with
      | some op =>
        pass; pass
        readSetBody fuel (some (closeUnion cursor.flags pending items, op)) []
      | none =>
        let item ← readSetRange
        readSetBody fuel pending (item :: items)

end

/-! ## Groups and repetitions -/

/-- What stands in a sequence: a pattern, or nothing where flags are set. -/
abbrev Item := Option Pattern

/-- The pattern of a sequence, whose items are given last one first. -/
def sequenceOf (items : List Item) : Pattern := .sequence (items.reverse.filterMap id)

/-- The flags after letters are switched on or off. -/
def Flags.withLetter (flags : Flags) (letter : Char) (on : Bool) : Option Flags :=
  match letter with
  | 'i' => some { flags with ignoresCase := on }
  | 'm' => some { flags with multiLine := on }
  | 's' => some { flags with dotAll := on }
  | 'R' => some { flags with crlf := on }
  | 'u' => some { flags with unicode := on }
  | 'x' => some { flags with extended := on }
  -- which match is taken makes no difference to whether there is one
  | 'U' => some flags
  | _ => none

/-- The flags after the letters of a group, none of which may occur twice. After a hyphen, of which
there is at most one, letters are switched off; one has to follow. -/
def Flags.withLetters (flags : Flags) (letters : List Char) : Option Flags :=
  let on := letters.takeWhile (· != '-')
  let off := (letters.drop (on.length + 1))
  let hasHyphen := on.length < letters.length
  if (on ++ off).eraseDups.length ≠ (on ++ off).length then none
  else if hasHyphen && off.isEmpty then none
  else do
    let flags ← on.foldlM (fun f c => f.withLetter c true) flags
    off.foldlM (fun f c => f.withLetter c false) flags

/-- Whether a character can begin the name of a group. -/
def isNameStart (c : Char) : Bool := c == '_' || isAlphabetic c

/-- Whether a character can continue the name of a group. -/
def isNameRest (c : Char) : Bool :=
  isNameStart c || c == '.' || c == '[' || c == ']' || Category.anyContains numbers c

/-- Whether the characters form the name of a group. -/
def isGroupName : List Char → Bool
  | [] => false
  | c :: rest => isNameStart c && rest.all isNameRest

/-- What opens a group. -/
inductive Opening where
  /-- Only flags, for what follows. -/
  | flags (flags : Flags)
  /-- A group in which flags are in force. -/
  | group (flags : Flags)

/-- Reads the name of a group, which has to be new. -/
def readGroupName : Reader Unit := do
  let cursor ← get
  let name := cursor.rest.takeWhile (· != '>')
  let text := String.ofList name
  if !isGroupName name || cursor.names.contains text then failure
  set { cursor with rest := cursor.rest.drop name.length, names := text :: cursor.names }
  expect '>'

/-- Reads what follows an opening bracket. -/
def readOpening : Reader Opening := do
  skip
  let cursor ← get
  match cursor.rest with
  | '?' :: 'P' :: '<' :: rest =>
    set { cursor with rest }
    readGroupName
    return .group cursor.flags
  | '?' :: '<' :: rest =>
    match rest with
    | '=' :: _ | '!' :: _ => failure
    | _ =>
      set { cursor with rest }
      readGroupName
      return .group cursor.flags
  | '?' :: rest =>
    let letters := rest.takeWhile fun c => c != ':' && c != ')'
    let flags ← liftM (cursor.flags.withLetters letters)
    match rest.drop letters.length with
    | ')' :: after =>
      if letters.isEmpty then failure
      set { cursor with rest := after }
      return .flags flags
    | ':' :: after =>
      set { cursor with rest := after }
      return .group flags
    | _ => failure
  | _ => return .group cursor.flags

/-- Reads a decimal number of 32 bits, with blanks around it. -/
def readDecimal : Reader Nat := do
  let cursor ← get
  let rest := cursor.rest.dropWhile isBlank
  let digits := rest.takeWhile Char.isDigit
  let n := digits.foldl (fun n c => 10 * n + (c.toNat - '0'.toNat)) 0
  if digits.isEmpty || n ≥ 2 ^ 32 then failure
  set { cursor with rest := (rest.drop digits.length).dropWhile isBlank }
  return n

/-- Reads the bounds of a repetition in braces. -/
def readBounds : Reader (Nat × Option Nat) := do
  passAndSkip
  let least ← readDecimal
  let most ← if ← passIf ',' then do
      skip
      if (← next) = '\x7d' then pure none else pure (some (← readDecimal))
    else pure (some least)
  expect '\x7d'
  skip
  if most.any (· < least) then failure
  return (least, most)

/-- Repeats the last item of a sequence, which has to be a pattern. -/
def repeatLast (items : List Item) (least : Nat) (most : Option Nat) : Reader (List Item) :=
  match items with
  | some p :: rest => return some (.repeated p least most) :: rest
  | _ => failure

/-- The pattern of an escape or a plain character. -/
def patternOfPiece? (flags : Flags) : Piece → Option Pattern
  | .literal c => (literalClass? flags c).map fun set => .one (set.caselessIf flags.ignoresCase)
  | .set set => some (.one set)
  | .assertion a => some (.assert a)

/-- The pattern of a dot. -/
def dot? (flags : Flags) : Option Pattern :=
  if !flags.unicode then none
  else if flags.dotAll then some (.one .all)
  else if flags.crlf then some (.one (.compl (.ofChars ['\r', '\n'])))
  else some (.one (.compl (.single '\n')))

/-- The condition of a caret. -/
def caret (flags : Flags) : Assertion :=
  if !flags.multiLine then .startText else if flags.crlf then .startLineCrlf else .startLine

/-- The condition of a dollar sign. -/
def dollar (flags : Flags) : Assertion :=
  if !flags.multiLine then .endText else if flags.crlf then .endLineCrlf else .endLine

/-- Reads a character, an escape, a dot or a condition. -/
def readPrimitive : Reader Pattern := do
  let flags := (← get).flags
  let c ← next
  pass
  match c with
  | '\\' => do
    let piece ← readEscape
    liftM (patternOfPiece? flags piece)
  | '.' => liftM (dot? flags)
  | '^' => return .assert (caret flags)
  | '$' => return .assert (dollar flags)
  | c => liftM (patternOfPiece? flags (.literal c))

mutual

/-- Reads alternatives up to the end of the text or of the group. `done` holds the alternatives that
are finished and `items` the present one, last ones first. -/
def readAlternatives (fuel depth : Nat) (done : List Pattern) (items : List Item) :
    Reader Pattern := do
  match fuel with
  | 0 => failure
  | fuel + 1 =>
    skip
    match ← next? with
    | none | some ')' => return finish (sequenceOf items :: done)
    | some '|' => do
      pass
      readAlternatives fuel depth (sequenceOf items :: done) []
    | some '(' => do
      let item ← readGroup fuel depth
      readAlternatives fuel depth done (item :: items)
    | some '[' => do
      let set ← readSet fuel
      readAlternatives fuel depth done (some (.one set) :: items)
    | some '?' => do
      readAlternatives fuel depth done (← readRepetition items 0 (some 1))
    | some '*' => do
      readAlternatives fuel depth done (← readRepetition items 0 none)
    | some '+' => do
      readAlternatives fuel depth done (← readRepetition items 1 none)
    | some '\x7b' => do
      let (least, most) ← readBounds
      let items ← repeatLast items least most
      let _ ← passIf '?'
      readAlternatives fuel depth done items
    | some _ => do
      let p ← readPrimitive
      readAlternatives fuel depth done (some p :: items)
where
  /-- The pattern of alternatives, last one first. -/
  finish (alternatives : List Pattern) : Pattern :=
    match alternatives.reverse with
    | [] => .empty
    | first :: rest => .choice first rest
  /-- Passes the sign of a repetition, and the mark after it that prefers few repetitions. -/
  readRepetition (items : List Item) (least : Nat) (most : Option Nat) : Reader (List Item) := do
    pass
    let items ← repeatLast items least most
    let _ ← passIf '?'
    return items

/-- Reads a group, or flags for what follows. -/
def readGroup (fuel depth : Nat) : Reader Item := do
  match fuel with
  | 0 => failure
  | fuel + 1 =>
    if depth = 0 then failure
    pass
    let outer := (← get).flags
    match ← readOpening with
    | .flags flags =>
      modify fun c => { c with flags }
      return none
    | .group flags =>
      modify fun c => { c with flags }
      let p ← readAlternatives fuel (depth - 1) [] []
      modify fun c => { c with flags := outer }
      expect ')'
      return some p

end

/-- How deep groups may be nested. -/
def nestingLimit : Nat := 250

/-- The pattern of a text, if it is one. -/
def read? (s : String) : Option Pattern :=
  let chars := s.toList
  match (readAlternatives (2 * chars.length + 2) nestingLimit [] []).run ⟨chars, {}, []⟩ with
  | some (p, cursor) => if cursor.rest.isEmpty then some p else none
  | none => none

end EntityMapper.Pattern
