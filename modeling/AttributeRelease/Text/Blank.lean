/-! White space of the Unicode standard, and the texts that hold nothing else. -/

namespace AttributeRelease.Text

/-- A white space character. -/
def isSpace (char : Char) : Bool :=
  let code := char.toNat
  (9 ≤ code && code ≤ 13) || code == 32 || code == 0x85 || code == 0xa0 || code == 0x1680 ||
    (0x2000 ≤ code && code ≤ 0x200a) || code == 0x2028 || code == 0x2029 || code == 0x202f ||
    code == 0x205f || code == 0x3000

/-- A text without a character other than white space. The empty text is blank. -/
def isBlank (text : String) : Bool := text.toList.all isSpace

end AttributeRelease.Text
