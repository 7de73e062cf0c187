/-!
# Double-precision numbers in decimal

A double-precision number by its bits, and the fewest decimal digits that read back as it:
`Double.digits`. Two written forms use them: `Double.positional` never has an exponent,
`Double.compact` has one where the number is very large or very small.
-/

namespace DatabaseResource

/-- A double-precision number, told apart by its bits. -/
structure Double where
  bits : UInt64
deriving DecidableEq, Repr, Inhabited

namespace Double

/-- The number that the machine computed. -/
def ofFloat (f : Float) : Double := ⟨f.toBits⟩

def isNegative (d : Double) : Bool := d.bits.toNat ≥ 1 <<< 63

/-- The eleven bits of the exponent. -/
def exponentField (d : Double) : Nat := d.bits.toNat >>> 52 % 1 <<< 11

/-- The low 52 bits. -/
def fractionField (d : Double) : Nat := d.bits.toNat % 1 <<< 52

/-- The size of a finite number is `significand * 2 ^ (scale - 1074)`. -/
def significand (d : Double) : Nat :=
  if d.exponentField = 0 then d.fractionField else d.fractionField + 1 <<< 52

def scale (d : Double) : Nat := d.exponentField - 1

/-- Whether the next smaller number is only half as far away as the next larger one. -/
def hasCloserLower (d : Double) : Bool := d.fractionField == 0 && d.exponentField > 1

/-- Digits `n` that stand for `n * 10 ^ exponent`. -/
structure Digits where
  value : Nat
  exponent : Int
deriving DecidableEq, Repr

/-- The largest `e` with `10 ^ e ≤ num / den`, searched downwards from `start`. -/
private def leadingExponent (num den : Nat) : Nat → Int
  | 0 => -400
  | fuel + 1 =>
    let e : Int := fuel - 400
    if Nat.pow 10 e.toNat * den ≤ num * Nat.pow 10 (-e).toNat then e
    else leadingExponent num den fuel

/-- The closest number with `count` digits between the two bounds, if there is one.
Values and bounds are quarters of the last binary place, over a common denominator. -/
private def candidate? (low value high den : Nat) (inclusive : Bool) (lead : Int) (count : Nat) :
    Option Digits :=
  let e : Int := lead - count + 1
  let up := Nat.pow 10 (-e).toNat
  let unit := Nat.pow 10 e.toNat * den
  let below := value * up / unit
  let fits (n : Nat) : Bool :=
    if inclusive then low * up ≤ n * unit && n * unit ≤ high * up
    else low * up < n * unit && n * unit < high * up
  let closerBelow : Bool := 2 * (value * up - below * unit) ≤ unit
  let order := if closerBelow then [below, below + 1] else [below + 1, below]
  (order.find? fits).map fun n => if n = Nat.pow 10 count then ⟨1, e + count⟩ else ⟨n, e⟩

/-- The fewest digits that read back as the number, and of those the closest to it. -/
def digits (d : Double) : Digits :=
  let s := d.significand
  if s = 0 then ⟨0, 0⟩
  else
    let quarter := 1 <<< d.scale
    let den := 1 <<< 1076
    let value := 4 * s * quarter
    let low := (4 * s - if d.hasCloserLower then 1 else 2) * quarter
    let high := (4 * s + 2) * quarter
    let lead := leadingExponent value den 800
    ((List.range 17).findSome? fun n =>
      candidate? low value high den (s % 2 == 0) lead (n + 1)).getD ⟨value / den, 0⟩

private def zeros (n : Nat) : List Char := List.replicate n '0'

private def signed (d : Double) (text : List Char) : String :=
  String.ofList (if d.isNegative then '-' :: text else text)

/-- The digits with a point where it belongs, and `tail` after them if no place follows it. -/
private def placed (ds : List Char) (exponent : Int) (tail : List Char) : List Char :=
  let point := ds.length + exponent
  if 0 ≤ exponent then ds ++ zeros exponent.toNat ++ tail
  else if 0 < point then ds.take point.toNat ++ '.' :: ds.drop point.toNat
  else '0' :: '.' :: zeros (-point).toNat ++ ds

/-- A finite number without an exponent; a whole number has no point. -/
def positional (d : Double) : String :=
  let ds := d.digits
  signed d (placed (Nat.toDigits 10 ds.value) ds.exponent [])

/-- A finite number with a point or an exponent: an exponent below `1e-5` and from `1e16` on,
and `.0` behind a whole number. -/
def compact (d : Double) : String :=
  let ds := d.digits
  let cs := Nat.toDigits 10 ds.value
  let point : Int := cs.length + ds.exponent
  if -5 < point && point ≤ 16 then signed d (placed cs ds.exponent ['.', '0'])
  else
    let mantissa := match cs with
      | c :: c' :: rest => c :: '.' :: c' :: rest
      | short => short
    signed d (mantissa ++ 'e' :: (toString (point - 1)).toList)

end Double

end DatabaseResource
