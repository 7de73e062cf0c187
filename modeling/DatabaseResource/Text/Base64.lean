/-!
# Base 64

Bytes written with letters, digits, `+` and `/`: three bytes in four characters, and equals signs
where the last group is short.
-/

namespace DatabaseResource.Text

/-- The character for a number below 64. -/
def base64Digit (n : Nat) : Char :=
  if n < 26 then Char.ofNat (65 + n)
  else if n < 52 then Char.ofNat (71 + n)
  else if n < 62 then Char.ofNat (n - 4)
  else if n = 62 then '+'
  else '/'

/-- Bytes in base 64. -/
def base64 : List UInt8 → List Char
  | [] => []
  | [a] =>
    let n := a.toNat * 2 ^ 16
    [base64Digit (n / 2 ^ 18), base64Digit (n / 2 ^ 12 % 64), '=', '=']
  | [a, b] =>
    let n := a.toNat * 2 ^ 16 + b.toNat * 2 ^ 8
    [base64Digit (n / 2 ^ 18), base64Digit (n / 2 ^ 12 % 64), base64Digit (n / 2 ^ 6 % 64), '=']
  | a :: b :: c :: rest =>
    let n := a.toNat * 2 ^ 16 + b.toNat * 2 ^ 8 + c.toNat
    base64Digit (n / 2 ^ 18) :: base64Digit (n / 2 ^ 12 % 64) :: base64Digit (n / 2 ^ 6 % 64)
      :: base64Digit (n % 64) :: base64 rest

end DatabaseResource.Text
