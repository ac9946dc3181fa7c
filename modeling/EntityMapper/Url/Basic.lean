import EntityMapper.Url.Host

/-!
# Addresses of resources

An address is a scheme, a colon and what the scheme says. The schemes that all programs know name a
host, files perhaps one; other schemes name one only after two slashes. Paths, queries and fragments
can be anything, so an address stands and falls with its scheme and what it says of the host.
-/

namespace EntityMapper.Url

/-- What a scheme says of the rest of an address. -/
inductive SchemeKind where
  /-- Files, with or without a host. -/
  | file
  /-- A host follows, after any number of slashes. -/
  | hosted
  /-- A host follows two slashes; without them anything may follow. -/
  | other
deriving DecidableEq

/-- The kind of a scheme in lower case. -/
def SchemeKind.ofName (name : String) : SchemeKind :=
  if name = "file" then .file
  else if ["http", "https", "ws", "wss", "ftp"].contains name then .hosted
  else .other

/-- Whether a backslash counts as a slash. -/
def SchemeKind.allowsBackslash (kind : SchemeKind) : Bool := kind != .other

/-- Whether a character is a slash for a kind of scheme. -/
def SchemeKind.isSlash (kind : SchemeKind) (c : Char) : Bool :=
  c == '/' || (kind.allowsBackslash && c == '\\')

/-- Whether a character ends the part that names the host. -/
def SchemeKind.endsAuthority (kind : SchemeKind) (c : Char) : Bool :=
  kind.isSlash c || c == '?' || c == '#'

/-- The text without controls and blanks around it and without tabs and line ends inside. -/
def cleaned (s : List Char) : List Char :=
  let isEdge := fun c : Char => c.toNat ≤ 0x20
  let trimmed := ((s.dropWhile isEdge).reverse.dropWhile isEdge).reverse
  trimmed.filter fun c => c != '\t' && c != '\n' && c != '\r'

/-- Whether a character can stand in a scheme after its first letter. -/
def isSchemeChar (c : Char) : Bool := c.isAlphanum || c == '+' || c == '-' || c == '.'

/-- The scheme in lower case and what follows its colon. -/
def splitScheme? (s : List Char) : Option (String × List Char) :=
  let scheme := s.takeWhile isSchemeChar
  match s.drop scheme.length with
  | ':' :: rest =>
    if scheme.head?.any Char.isAlpha then some ((String.ofList scheme).toLower, rest) else none
  | _ => none

/-- What follows the name of a host: a colon and a port of 16 bits, or the end of the part that
names the host. -/
def isPortPart : List Char → Bool
  | ':' :: rest =>
    let digits := rest.takeWhile Char.isDigit
    let endsWell := (rest.drop digits.length).head?.all fun c => ['/', '\\', '?', '#'].contains c
    endsWell && (numberInBase? 10 digits).any (· < 2 ^ 16)
  | _ => true

/-- The name of a host at the front, and what follows it. A colon inside brackets belongs to the
name. -/
def splitHost (kind : SchemeKind) (inBrackets : Bool) : List Char → List Char × List Char
  | [] => ([], [])
  | c :: rest =>
    if (c == ':' && !inBrackets) || kind.endsAuthority c then ([], c :: rest)
    else
      let inBrackets := if c == '[' then true else if c == ']' then false else inBrackets
      let (host, rest) := splitHost kind inBrackets rest
      (c :: host, rest)

/-- Whether the characters name a host, and a port perhaps, before anything may follow. `isNamed`
says that a user was named before. -/
def isHostPart (kind : SchemeKind) (isNamed : Bool) (s : List Char) : Bool :=
  let (host, rest) := splitHost kind false s
  if host.isEmpty then kind == .other && rest.head? != some ':' && !isNamed
  else (if kind == .other then isOpaqueHost host else isHost host) && isPortPart rest

/-- Whether the characters name a host, perhaps with a user before the last at sign. -/
def isAuthority (kind : SchemeKind) (s : List Char) : Bool :=
  let named := s.takeWhile fun c => !kind.endsAuthority c
  let afterAt := (named.reverse.takeWhile (· != '@')).length
  if named.contains '@' then
    let user := named.take (named.length - afterAt - 1)
    let host := s.drop (user.length + 1)
    if user.isEmpty then !host.head?.any kind.endsAuthority && isHostPart kind false host
    else isHostPart kind (user != [':']) host
  else isHostPart kind false s

/-- Whether some characters are the letter of a drive and a colon or a bar. -/
def isDriveLetter : List Char → Bool
  | [letter, mark] => letter.isAlpha && (mark == ':' || mark == '|')
  | _ => false

/-- Whether what follows the scheme of a file is in order: after two slashes, the host is empty, the
letter of a drive or a host. -/
def isFilePart : List Char → Bool
  | a :: b :: rest =>
    if SchemeKind.file.isSlash a && SchemeKind.file.isSlash b then
      let host := rest.takeWhile fun c => !SchemeKind.file.endsAuthority c
      host.isEmpty || isDriveLetter host || isHost host
    else true
  | _ => true

end EntityMapper.Url

namespace EntityMapper

/-- Whether a text is the address of a resource, complete with its scheme. -/
def isUrl (s : String) : Bool :=
  match Url.splitScheme? (Url.cleaned s.toList) with
  | none => false
  | some (scheme, rest) =>
    let kind := Url.SchemeKind.ofName scheme
    match kind with
    | .file => Url.isFilePart rest
    | .hosted => Url.isAuthority kind (rest.dropWhile kind.isSlash)
    | .other =>
      match rest with
      | '/' :: '/' :: rest => Url.isAuthority kind rest
      | _ => true

end EntityMapper
