import AttributeRelease.Text.Unprintable

/-! Text in quotation marks, as it is shown in diagnostics. -/

namespace AttributeRelease.Text

/-- Characters with an escape of their own; others that cannot be shown are given by their code
point. -/
def shownChar (char : Char) : List Char :=
  if char == '"' then ['\\', '"']
  else if char == '\\' then ['\\', '\\']
  else if char == '\n' then ['\\', 'n']
  else if char == '\r' then ['\\', 'r']
  else if char == '\t' then ['\\', 't']
  else if char.toNat == 0 then ['\\', '0']
  else if isPrintable char then [char]
  else ['\\', 'u', '\x7b'] ++ Nat.toDigits 16 char.toNat ++ ['\x7d']

def quoted (text : String) : String := .ofList ('"' :: text.toList.flatMap shownChar ++ ['"'])

end AttributeRelease.Text
