import EntityMapper.Text.Property

/-!
# Quoted text

Text inside a message or a debug text stands between double quotes. What could be mistaken or not
be seen is escaped: quotes and backslashes, controls, characters without a shape of their own, and
those that would attach themselves to the quote before them.
-/

namespace EntityMapper.Text

/-- How one character is written between double quotes. -/
def quotedChar (c : Char) : List Char :=
  if c = '"' ∨ c = '\\' then ['\\', c]
  else if c = '\n' then ['\\', 'n']
  else if c = '\r' then ['\\', 'r']
  else if c = '\t' then ['\\', 't']
  else if c.toNat = 0 then ['\\', '0']
  else if 0x20 ≤ c.toNat ∧ c.toNat < 0x7F then [c]
  else if isPrintable c && !isExtender c then [c]
  else '\\' :: 'u' :: '\x7b' :: hexOfNumber c.toNat ++ ['\x7d']

/-- A text between double quotes, escaped so that it can be read. -/
def quoted (s : String) : String :=
  String.ofList ('"' :: s.toList.flatMap quotedChar ++ ['"'])

end EntityMapper.Text
