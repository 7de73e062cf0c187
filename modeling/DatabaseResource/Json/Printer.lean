import DatabaseResource.Json.Value
import DatabaseResource.Text.Percent

/-!
# Writing JSON texts

The compact form of a value, without white space. A string is written with the fewest escapes:
quotation mark, backslash and the control characters below the space.
-/

namespace DatabaseResource.Json

/-- One hexadecimal digit, in lower case. -/
def lowerHexDigit (n : Nat) : Char :=
  if n < 10 then Char.ofNat (48 + n) else Char.ofNat (87 + n)

/-- A character as it stands in a string. -/
def writeChar (c : Char) : List Char :=
  if c = '"' then ['\\', '"']
  else if c = '\\' then ['\\', '\\']
  else if c = '\x08' then ['\\', 'b']
  else if c = '\x0c' then ['\\', 'f']
  else if c = '\n' then ['\\', 'n']
  else if c = '\r' then ['\\', 'r']
  else if c = '\t' then ['\\', 't']
  else if c.toNat < 0x20 then
    ['\\', 'u', '0', '0', lowerHexDigit (c.toNat / 16), lowerHexDigit (c.toNat % 16)]
  else [c]

/-- A string between quotation marks. -/
def writeString (s : String) : List Char := '"' :: s.toList.flatMap writeChar ++ ['"']

/-- Parts with a comma between each two. -/
def withCommas : List (List Char) → List Char
  | [] => []
  | [p] => p
  | p :: ps => p ++ ',' :: withCommas ps

/-- A member of an object, its value already written. -/
def writeMember (name : String) (value : List Char) : List Char :=
  writeString name ++ ':' :: value

/-- An object whose members are already written. -/
def writeObject (members : List (List Char)) : List Char := '{' :: withCommas members ++ ['}']

def writeNumber : Number → List Char
  | .integer i => (toString i).toList
  | .double d => d.compact.toList

mutual

def writeValue : Value → List Char
  | .null => ['n', 'u', 'l', 'l']
  | .bool true => ['t', 'r', 'u', 'e']
  | .bool false => ['f', 'a', 'l', 's', 'e']
  | .number n => writeNumber n
  | .text s => writeString s
  | .array items => '[' :: withCommas (writeItems items) ++ [']']
  | .object members => writeObject (writeMembers members)

def writeItems : List Value → List (List Char)
  | [] => []
  | v :: vs => writeValue v :: writeItems vs

def writeMembers : List (String × Value) → List (List Char)
  | [] => []
  | (n, v) :: ms => writeMember n (writeValue v) :: writeMembers ms

end

/-- The compact text of a value. -/
def Value.render (v : Value) : String := String.ofList (writeValue v)

end DatabaseResource.Json
