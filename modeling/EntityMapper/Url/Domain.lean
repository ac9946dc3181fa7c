import EntityMapper.Url.Direction
import EntityMapper.Url.Punycode

/-!
# Domains

A domain is a row of labels with dots between them. Before it is looked at, its characters are
brought into their usual form: capitals are lowered, wide forms are narrowed, some characters are
dropped and some refused. A label that begins with `xn--` is the punycode of one with characters
beyond ASCII and has to stand for a label in its usual form.
-/

namespace EntityMapper.Url

open Text

/-- Characters without effect on the domain they stand in. -/
def droppedSet : CodePoints := .ofLines [
    "ad 34f 115f-1160 17b4-17b5 180b-180f 200b 2060-2064 206a-206f 3164 fe00-fe0f feff ffa0",
    "1bca0-1bca3 1d173-1d17a e0100-e01ef"]

/-- Printable characters that are refused, most of them because their usual form holds a blank or a
delimiter. -/
def refusedSet : CodePoints := .ofLines [
    "a0 a8 af b4 b8 2d8-2dd 37a 384-385 1680 1fbd 1fbf-1fc1 1fcd-1fcf 1fdd-1fdf 1fed-1fee",
    "1ffd-1ffe 2000-200a 2017 2024-2026 202f 203e 2047-2049 205f 2100-2101 2105-2106 2488-249b",
    "2a74 2ff0-2fff 3000 309b-309c 31ef 33c2 33c7 33d8 fc5e-fc63 fdfa-fdfb fe12-fe13 fe16 fe19",
    "fe30 fe47-fe4c fe52 fe55-fe56 fe5f fe64-fe65 fe68 fe6a-fe6b fe70 fe72 fe74 fe76 fe78 fe7a",
    "fe7c fe7e ff03 ff05 ff0f ff1a ff1c ff1e-ff20 ff3b-ff3e ff5c ffe3 fffc-fffd 1f100"]

/-- Characters other than capitals whose usual form is another one. -/
def variantSet : CodePoints := .ofLines [
    "aa b2-b3 b5 b9-ba bc-be 133 140 149 17f 1c6 1c9 1cc 1f3 2b0-2b8 2e0-2e4 340-341 343-345 374",
    "37e 387 3d0-3d1 3d5-3d6 3f0-3f2 3f5 587 675-678 958-95f 9dc-9dd 9df a33 a36 a59-a5b a5e",
    "b5c-b5d e33 eb3 edc-edd f0c f43 f4d f52 f57 f5c f69 f73 f75-f79 f81 f93 f9d fa2 fa7 fac fb9",
    "10fc 13f8-13fd 1c80-1c88 1d2c-1d2e 1d30-1d3a 1d3c-1d4d 1d4f-1d6a 1d78 1d9b-1dbf 1e9a-1e9b",
    "1f71 1f73 1f75 1f77 1f79 1f7b 1f7d 1f80-1f87 1f90-1f97 1fa0-1fa7 1fb2-1fb4 1fb7 1fbe",
    "1fc2-1fc4 1fc7 1fd3 1fe3 1fef 1ff2-1ff4 1ff7 2011 2033-2034 2036-2037 203c 2057 2070-2071",
    "2074-208e 2090-209c 20a8 2103 2109-210a 210e-210f 2113 2116 2120-2122 212f 2134-2139",
    "213b-213d 2140 2146-2149 2150-217f 2189 222c-222d 222f-2230 2329-232a 2460-2487 249c-24ea",
    "2a0c 2a75-2a76 2adc 2c7c-2c7d 2d6f 2e9f 2ef3 2f00-2fd5 3002 3036 3038-303a 309f 30ff",
    "3131-3163 3165-318e 3192-319f 3200-321e 3220-3247 3250-327e 3280-33c1 33c3-33c6 33c8-33d7",
    "33d9-33ff a69c-a69d a770 a7f1-a7f4 a7f8-a7f9 ab5c-ab5f ab69 ab70-abbf f900-fa0d fa10 fa12",
    "fa15-fa1e fa20 fa22 fa25-fa26 fa2a-fa6d fa70-fad9 fb00-fb06 fb13-fb17 fb1d fb1f-fb36",
    "fb38-fb3c fb3e fb40-fb41 fb43-fb44 fb46-fbb1 fbd3-fc5d fc64-fd3d fd50-fd8f fd92-fdc7",
    "fdf0-fdf9 fdfc fe10-fe11 fe14-fe15 fe17-fe18 fe31-fe44 fe4d-fe51 fe54 fe57-fe5e fe60-fe63",
    "fe66 fe69 fe71 fe77 fe79 fe7b fe7d fe7f-fefc ff01-ff20 ff5b ff5d-ff9f ffa1-ffbe ffc2-ffc7",
    "ffca-ffcf ffd2-ffd7 ffda-ffdc ffe0-ffe2 ffe4-ffe6 ffe8-ffee 10781-10785 10787-107b0",
    "107b2-107ba 1ccd6-1ccf9 1d15e-1d164 1d1bb-1d1c0 1d41a-1d7ff 1e030-1e06d 1ee00-1eebb",
    "1f101-1f10a 1f110-1f12e 1f130-1f14f 1f16a-1f16c 1f190 1f200-1f202 1f210-1f23b 1f240-1f248",
    "1f250-1f251 1fbf0-1fbf9 2f800-2fa1d"]

/-- Runs of other forms of the ten digits, by the form of the first digit and that digit. -/
def digitForms : List (Nat × Nat × Nat) := [
  (0xB2, 0xB3, 2), (0xB9, 0xB9, 1), (0x2070, 0x2070, 0), (0x2074, 0x2079, 4), (0x2080, 0x2089, 0),
  (0x2460, 0x2468, 1), (0x24EA, 0x24EA, 0), (0xFF10, 0xFF19, 0), (0x1CCF0, 0x1CCF9, 0),
  (0x1D7CE, 0x1D7D7, 0), (0x1D7D8, 0x1D7E1, 0), (0x1D7E2, 0x1D7EB, 0), (0x1D7EC, 0x1D7F5, 0),
  (0x1D7F6, 0x1D7FF, 0), (0x1FBF0, 0x1FBF9, 0)]

/-- The digit that a character is another form of. -/
def digitOfForm? (n : Nat) : Option Char :=
  digitForms.findSome? fun (first, last, digit) =>
    if first ≤ n && n ≤ last then some (Char.ofNat ('0'.toNat + digit + (n - first))) else none

/-- Whether a character is a capital whose usual form is another one. -/
def isCapital (c : Char) : Bool :=
  Category.anyContains [.uppercaseLetter, .titlecaseLetter] c &&
    !(0x13A0 ≤ c.toNat && c.toNat ≤ 0x13F5)

/-- The usual form of a character beyond ASCII, as far as it can make a difference: it is refused,
it is dropped, or it becomes ASCII. Any other character stands for its usual form. -/
def usualForm? (c : Char) : Option (List Char) :=
  let n := c.toNat
  if droppedSet.contains c then some []
  else if refusedSet.contains c || !(isPrintable c || isJoinControl c) then none
  else if n = 0x3002 || n = 0xFF0E || n = 0xFF61 then some ['.']
  else match digitOfForm? n with
    | some digit => some [digit]
    | none =>
      if 0xFF01 ≤ n && n ≤ 0xFF5E then some [(Char.ofNat (n - 0xFEE0)).toLower] else some [c]

/-- Whether a character is refused in the ASCII form of a domain. -/
def isForbidden (c : Char) : Bool :=
  c.toNat ≤ 0x20 || c.toNat == 0x7F ||
    ['%', '#', '/', ':', '<', '>', '?', '@', '[', '\\', ']', '^', '|'].contains c

/-- The usual form of a character of a domain; fails on those that are refused. -/
def domainChar? (c : Char) : Option (List Char) := do
  let form ← if c.toNat < 0x80 then some [c.toLower] else usualForm? c
  if form.any isForbidden then none else return form

/-- Whether a character beyond ASCII is in its usual form already. -/
def isUsual (c : Char) : Bool :=
  usualForm? c == some [c] && !isCapital c && !variantSet.contains c

/-- Signs that take the vowel from the letter before them; a joiner may follow them. -/
def viramaSet : CodePoints := .ofLines [
    "94d 9cd a4d acd b4d bcd c4d ccd d3b-d3c d4d dca e3a eba f84 1039-103a 1714-1715 1734 17d2",
    "1a60 1b44 1baa-1bab 1bf2-1bf3 2d7f a806 a82c a8c4 a953 a9c0 aaf6 abed 10a3f 11046 11070",
    "1107f 110b9 11133-11134 111c0 11235 112ea 1134d 11442 114c2 115bf 1163f 116b6 1172b 11839",
    "1193d-1193e 119e0 11a34 11a47 11a99 11c3f 11d44-11d45 11d97"]

/-- Whether a joiner stands only after signs that allow one. -/
def joinersFit (label : List Char) : Bool :=
  (label.zip label.tail).all (fun (before, c) => !isJoinControl c || viramaSet.contains before) &&
    !label.head?.any isJoinControl

/-- The label that a label of a domain stands for. -/
def labelOf? (label : List Char) : Option (List Char) :=
  match label with
  | 'x' :: 'n' :: '-' :: '-' :: code => do
    let decoded ← Punycode.decode? code
    let beyondAscii := decoded.filter fun c => c.toNat ≥ 0x80
    if beyondAscii.isEmpty || !beyondAscii.all isUsual then none else return decoded
  | _ => some label

/-- Whether the characters of a label may stand where they stand. -/
def isLabel (label : List Char) : Bool := !label.head?.any isMark && joinersFit label

/-- The parts of a text between the places where a character stands. -/
def splitOnChar (mark : Char) (s : List Char) : List (List Char) :=
  s.foldr (fun c parts =>
    match parts with
    | part :: rest => if c = mark then [] :: part :: rest else (c :: part) :: rest
    | [] => [[c]]) [[]]

/-- The labels of a domain in their usual form; fails if it is no domain. -/
def domainLabels? (s : List Char) : Option (List (List Char)) := do
  let labels := splitOnChar '.' (← s.mapM domainChar?).flatten
  let meant ← labels.mapM labelOf?
  if !meant.all isLabel then none
  if meant.any hasRightToLeft && !meant.all isOneDirection then none
  if labels.all List.isEmpty && labels.length ≤ 1 then none
  return labels

end EntityMapper.Url
