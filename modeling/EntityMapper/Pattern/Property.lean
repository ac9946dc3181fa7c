import EntityMapper.Pattern.Class
import EntityMapper.Text.Script

/-!
# Classes by name

Patterns name classes by their general category, script or property. Names are compared without
regard to case, blanks, hyphens and underscores, and may begin with `is`.
-/

namespace EntityMapper.Pattern

open Text

/-- A name in lower case, without what does not count. -/
def plainName (name : String) : String :=
  let chars := (name.toList.filter fun c => !(c = ' ' ∨ c = '_' ∨ c = '-')).map Char.toLower
  match chars with
  | 'i' :: 's' :: rest => if rest = ['c'] then String.ofList chars else String.ofList rest
  | _ => String.ofList chars

/-- The class of some general categories. -/
def categories (all : List Category) : Class := .property (Category.anyContains all)

/-- The letters with case. -/
def casedLetters : List Category := [.uppercaseLetter, .lowercaseLetter, .titlecaseLetter]

/-- All letters. -/
def letters : List Category := casedLetters ++ [.modifierLetter, .otherLetter]

/-- All marks. -/
def marks : List Category := [.nonspacingMark, .spacingMark, .enclosingMark]

/-- All numbers. -/
def numbers : List Category := [.decimalNumber, .letterNumber, .otherNumber]

/-- All punctuation. -/
def punctuation : List Category := [.connectorPunctuation, .dashPunctuation, .openPunctuation,
  .closePunctuation, .initialPunctuation, .finalPunctuation, .otherPunctuation]

/-- All symbols. -/
def symbols : List Category := [.mathSymbol, .currencySymbol, .modifierSymbol, .otherSymbol]

/-- All separators. -/
def separators : List Category := [.spaceSeparator, .lineSeparator, .paragraphSeparator]

/-- The assigned code points. -/
def assigned : Class := categories Category.all

/-- The class of a general category, by its short or long name. -/
def category? : String → Option Class
  | "l" | "letter" => some (categories letters)
  | "lc" | "casedletter" => some (categories casedLetters)
  | "lu" | "uppercaseletter" => some (categories [.uppercaseLetter])
  | "ll" | "lowercaseletter" => some (categories [.lowercaseLetter])
  | "lt" | "titlecaseletter" => some (categories [.titlecaseLetter])
  | "lm" | "modifierletter" => some (categories [.modifierLetter])
  | "lo" | "otherletter" => some (categories [.otherLetter])
  | "m" | "mark" | "combiningmark" => some (categories marks)
  | "mn" | "nonspacingmark" => some (categories [.nonspacingMark])
  | "mc" | "spacingmark" => some (categories [.spacingMark])
  | "me" | "enclosingmark" => some (categories [.enclosingMark])
  | "n" | "number" => some (categories numbers)
  | "nd" | "decimalnumber" | "digit" => some (categories [.decimalNumber])
  | "nl" | "letternumber" => some (categories [.letterNumber])
  | "no" | "othernumber" => some (categories [.otherNumber])
  | "p" | "punctuation" | "punct" => some (categories punctuation)
  | "pc" | "connectorpunctuation" => some (categories [.connectorPunctuation])
  | "pd" | "dashpunctuation" => some (categories [.dashPunctuation])
  | "ps" | "openpunctuation" => some (categories [.openPunctuation])
  | "pe" | "closepunctuation" => some (categories [.closePunctuation])
  | "pi" | "initialpunctuation" => some (categories [.initialPunctuation])
  | "pf" | "finalpunctuation" => some (categories [.finalPunctuation])
  | "po" | "otherpunctuation" => some (categories [.otherPunctuation])
  | "s" | "symbol" => some (categories symbols)
  | "sm" | "mathsymbol" => some (categories [.mathSymbol])
  | "sc" | "currencysymbol" => some (categories [.currencySymbol])
  | "sk" | "modifiersymbol" => some (categories [.modifierSymbol])
  | "so" | "othersymbol" => some (categories [.otherSymbol])
  | "z" | "separator" => some (categories separators)
  | "zs" | "spaceseparator" => some (categories [.spaceSeparator])
  | "zl" | "lineseparator" => some (categories [.lineSeparator])
  | "zp" | "paragraphseparator" => some (categories [.paragraphSeparator])
  | "c" | "other" => some (.union (categories [.control, .format, .privateUse]) (.compl assigned))
  | "cc" | "control" | "cntrl" => some (categories [.control])
  | "cf" | "format" => some (categories [.format])
  | "co" | "privateuse" => some (categories [.privateUse])
  | "cn" | "unassigned" => some (.compl assigned)
  | "any" => some .all
  | "assigned" => some assigned
  | "ascii" => some (.range (Char.ofNat 0) (Char.ofNat 0x7F))
  | _ => none

/-- The class of a property, by its short or long name. -/
def property? : String → Option Class
  | "alphabetic" | "alpha" => some (.property isAlphabetic)
  | "whitespace" | "wspace" | "space" => some (.property isBlank)
  | "lowercase" | "lower" => some (.property isLowercase)
  | "uppercase" | "upper" => some (.property isUppercase)
  | "cased" => some (.property isCased)
  | "caseignorable" | "ci" => some (.property isCaseIgnorable)
  | "graphemeextend" | "grext" => some (.property isExtender)
  | "joincontrol" | "joinc" => some (.property isJoinControl)
  | "asciihexdigit" | "ahex" =>
    some (.unions [.range '0' '9', .range 'a' 'f', .range 'A' 'F'])
  | _ => none

/-- The class of a script. -/
def scriptClass? (name : String) : Option Class := (script? name).map .table

/-- The class of a name that stands alone: a property, a general category or a script. -/
def classNamed? (name : String) : Option Class :=
  let name := plainName name
  property? name <|> category? name <|> scriptClass? name

/-- The class of a value of a property. -/
def classValued? (property value : String) : Option Class :=
  let value := plainName value
  match plainName property with
  | "generalcategory" | "gc" => category? value
  | "script" | "sc" | "scriptextensions" | "scx" => scriptClass? value
  | _ => none

/-- The class of the name of an ASCII class. -/
def asciiClass? : List Char → Option Class
  | ['a', 'l', 'n', 'u', 'm'] => some (.unions [.range '0' '9', .range 'A' 'Z', .range 'a' 'z'])
  | ['a', 'l', 'p', 'h', 'a'] => some (.unions [.range 'A' 'Z', .range 'a' 'z'])
  | ['a', 's', 'c', 'i', 'i'] => some (.range (Char.ofNat 0) (Char.ofNat 0x7F))
  | ['b', 'l', 'a', 'n', 'k'] => some (.ofChars ['\t', ' '])
  | ['c', 'n', 't', 'r', 'l'] =>
    some (.union (.range (Char.ofNat 0) (Char.ofNat 0x1F)) (.single (Char.ofNat 0x7F)))
  | ['d', 'i', 'g', 'i', 't'] => some (.range '0' '9')
  | ['g', 'r', 'a', 'p', 'h'] => some (.range '!' '~')
  | ['l', 'o', 'w', 'e', 'r'] => some (.range 'a' 'z')
  | ['p', 'r', 'i', 'n', 't'] => some (.range ' ' '~')
  | ['p', 'u', 'n', 'c', 't'] =>
    some (.unions [.range '!' '/', .range ':' '@', .range '[' (Char.ofNat 0x60),
      .range (Char.ofNat 0x7B) '~'])
  | ['s', 'p', 'a', 'c', 'e'] => some (.unions [.range '\t' '\r', .single ' '])
  | ['u', 'p', 'p', 'e', 'r'] => some (.range 'A' 'Z')
  | ['w', 'o', 'r', 'd'] =>
    some (.unions [.range '0' '9', .range 'A' 'Z', .single '_', .range 'a' 'z'])
  | ['x', 'd', 'i', 'g', 'i', 't'] =>
    some (.unions [.range '0' '9', .range 'A' 'F', .range 'a' 'f'])
  | _ => none

end EntityMapper.Pattern
