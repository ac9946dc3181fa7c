import EntityMapper.Text.Hex

/-!
# Percent encoding

A percent sign and two hexadecimal digits stand for one byte, and every other character stands for
the bytes of its own encoding. A percent sign without two digits after it stands for itself.
-/

namespace EntityMapper.Text

/-- The bytes that percent-encoded characters stand for. -/
def percentBytes : List Char → List UInt8
  | [] => []
  | '%' :: high :: low :: rest =>
    match hexValue? high, hexValue? low with
    | some h, some l => UInt8.ofNat (16 * h + l) :: percentBytes rest
    | _, _ => '%'.toUInt8 :: percentBytes (high :: low :: rest)
  | c :: rest => String.utf8EncodeChar c ++ percentBytes rest

/-- The text that percent-encoded characters stand for, if their bytes are one. -/
def percentDecode? (s : List Char) : Option String :=
  String.fromUTF8? ⟨(percentBytes s).toArray⟩

end EntityMapper.Text
