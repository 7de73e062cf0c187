import DatabaseResource.Text.Graphic

/-!
# Quoted texts

A text between quotation marks, in a form that shows every character: quotation mark and
backslash get a backslash, the common control characters have short escapes, and any other
character that does not show on its own is written as its code point.
-/

namespace DatabaseResource.Text

/-- A character as it stands between quotation marks. -/
def quotedChar (c : Char) : List Char :=
  if c = '\x00' then ['\\', '0']
  else if c = '\t' then ['\\', 't']
  else if c = '\r' then ['\\', 'r']
  else if c = '\n' then ['\\', 'n']
  else if c = '"' then ['\\', '"']
  else if c = '\\' then ['\\', '\\']
  else if isGraphic c then [c]
  else ['\\', 'u', '\x7b'] ++ Nat.toDigits 16 c.toNat ++ ['\x7d']

/-- A text between quotation marks. -/
def quoted (s : String) : String :=
  String.ofList ('"' :: s.toList.flatMap quotedChar ++ ['"'])

end DatabaseResource.Text
