/-!
# Percent encoding

Bytes written as `%XX` inside a text. `percentEncode` writes the characters outside ASCII, and the
ASCII characters that a set names, byte by byte; `percentDecode` gives the bytes that a text with
such triples stands for.
-/

namespace DatabaseResource.Text

/-- One hexadecimal digit, in upper case. -/
def upperHexDigit (n : Nat) : Char :=
  if n < 10 then Char.ofNat (48 + n) else Char.ofNat (55 + n)

/-- The value of a hexadecimal digit in either case. -/
def hexValue? (c : Char) : Option Nat :=
  if '0' ≤ c ∧ c ≤ '9' then some (c.toNat - 48)
  else if 'a' ≤ c ∧ c ≤ 'f' then some (c.toNat - 87)
  else if 'A' ≤ c ∧ c ≤ 'F' then some (c.toNat - 55)
  else none

/-- A byte as a percent sign and two digits. -/
def percentByte (b : UInt8) : List Char :=
  ['%', upperHexDigit (b.toNat / 16), upperHexDigit (b.toNat % 16)]

/-- A character, written as its UTF-8 bytes if it is not ASCII or belongs to the set. -/
def percentEncodeChar (inSet : Char → Bool) (c : Char) : List Char :=
  if c.toNat < 0x80 && !inSet c then [c] else (String.utf8EncodeChar c).flatMap percentByte

/-- A text with the characters of the set, and those outside ASCII, written byte by byte. -/
def percentEncode (inSet : Char → Bool) (cs : List Char) : List Char :=
  cs.flatMap (percentEncodeChar inSet)

/-- The bytes of a text in which a percent sign and two digits stand for one byte. -/
def percentDecode : List Char → List UInt8
  | [] => []
  | '%' :: h :: l :: cs =>
    match hexValue? h, hexValue? l with
    | some hi, some lo => UInt8.ofNat (16 * hi + lo) :: percentDecode cs
    | _, _ => 0x25 :: percentDecode (h :: l :: cs)
  | c :: cs => String.utf8EncodeChar c ++ percentDecode cs

/-- The text that a list of bytes spells in UTF-8. -/
def ofUtf8? (bytes : List UInt8) : Option String :=
  String.fromUTF8? ⟨bytes.toArray⟩

end DatabaseResource.Text
