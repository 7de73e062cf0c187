import DatabaseResource.Text.Percent
import DatabaseResource.Json.Printer

/-!
# Internet addresses

Addresses of version 4 in the spellings that a URL allows (one to four numbers, each decimal, octal
or hexadecimal) and of version 6 (eight pieces, a run of zeros left out, an address of version 4 at
the end). `renderIpv4` and `renderIpv6` give the one written form of each.
-/

namespace DatabaseResource.Url

/-! ## Version 4 -/

/-- A text cut at each separator. -/
def cutAt (separator : Char) : List Char → List (List Char)
  | [] => [[]]
  | c :: cs =>
    if c = separator then [] :: cutAt separator cs
    else
      match cutAt separator cs with
      | [] => [[c]]
      | part :: parts => (c :: part) :: parts

/-- A text cut at each dot. -/
def splitDots (cs : List Char) : List (List Char) := cutAt '.' cs

/-- A number in a base up to 16; no digit at all is zero. -/
def numberInBase? (base : Nat) (cs : List Char) : Option Nat :=
  cs.foldlM (fun n c => do
    let d ← Text.hexValue? c
    if d < base then some (n * base + d) else none) 0

/-- A part of an address of version 4: decimal, octal after `0`, hexadecimal after `0x`. -/
def ipv4Number? : List Char → Option Nat
  | [] => none
  | '0' :: 'x' :: cs => numberInBase? 16 cs
  | '0' :: 'X' :: cs => numberInBase? 16 cs
  | '0' :: c :: cs => numberInBase? 8 (c :: cs)
  | cs => numberInBase? 10 cs

/-- Whether the last part of a domain is a number, so that the domain must be an address. -/
def endsInNumber (domain : List Char) : Bool :=
  let numeric (part : List Char) : Bool :=
    (!part.isEmpty && part.all fun c => '0' ≤ c && c ≤ '9') || (ipv4Number? part).isSome
  match (splitDots domain).reverse with
  | [] => false
  | [] :: [] => false
  | [] :: part :: _ => numeric part
  | part :: _ => numeric part

/-- The address that up to four numbers stand for: the last one fills all bytes that are left. -/
def ipv4OfNumbers? : List Nat → Nat → Option Nat
  | [], _ => none
  | [n], bytes => if n < 256 ^ bytes then some n else none
  | n :: ns, bytes =>
    if n ≤ 255 then (ipv4OfNumbers? ns (bytes - 1)).map (n * 256 ^ (bytes - 1) + ·) else none

/-- Reads an address of version 4; a dot behind it does not count. -/
def readIpv4? (domain : List Char) : Option Nat := do
  let parts := splitDots domain
  let parts := if parts.getLast? = some [] then parts.dropLast else parts
  if parts.length > 4 then none
  let numbers ← parts.mapM ipv4Number?
  ipv4OfNumbers? numbers 4

def renderIpv4 (address : Nat) : String :=
  s!"{address >>> 24 % 256}.{address >>> 16 % 256}.{address >>> 8 % 256}.{address % 256}"

/-! ## Version 6 -/

/-- The leading hexadecimal digits, at most four of them, and the rest. -/
def takeHex (cs : List Char) : List Char × List Char :=
  let digits := (cs.take 4).takeWhile fun c => (Text.hexValue? c).isSome
  (digits, cs.drop digits.length)

/-- A decimal number up to 255 without needless zeros. -/
def byteNumber? : List Char → Option Nat
  | [] => none
  | ['0'] => some 0
  | '0' :: _ => none
  | cs => do
    let n ← numberInBase? 10 cs
    if n ≤ 255 then some n else none

/-- The two pieces that four decimal numbers with dots stand for. -/
def ipv4Pieces? (cs : List Char) : Option (List Nat) := do
  match ← (splitDots cs).mapM byteNumber? with
  | [a, b, c, d] => some [a * 256 + b, c * 256 + d]
  | _ => none

/-- The pieces of an address: those before the gap, and those behind it if there is a gap.
`fuel` bounds the number of pieces. -/
def readPieces (fuel : Nat) (front : List Nat) (behind : Option (List Nat)) (cs : List Char) :
    Option (List Nat × Option (List Nat)) :=
  let add (pieces : List Nat) : List Nat × Option (List Nat) :=
    match behind with
    | none => (front ++ pieces, none)
    | some b => (front, some (b ++ pieces))
  match fuel, cs with
  | _, [] => some (front, behind)
  | 0, _ => none
  | fuel + 1, ':' :: cs =>
    match behind with
    | none => readPieces fuel front (some []) cs
    | some _ => none
  | fuel + 1, cs =>
    let (digits, rest) := takeHex cs
    let piece := (numberInBase? 16 digits).getD 0
    match rest with
    | [] => let (front, behind) := add [piece]; some (front, behind)
    | '.' :: _ => do
      if digits.isEmpty then none
      let (front, behind) := add (← ipv4Pieces? cs)
      some (front, behind)
    | [':'] => none
    | ':' :: rest =>
      let (front, behind) := add [piece]
      readPieces fuel front behind rest
    | _ => none

/-- Reads an address of version 6 without its brackets: eight pieces, or fewer with a gap. -/
def readIpv6? (cs : List Char) : Option (List Nat) := do
  let (front, behind) ← match cs with
    | ':' :: ':' :: cs => readPieces 9 [] (some []) cs
    | ':' :: _ => none
    | cs => if cs.length < 2 then none else readPieces 9 [] none cs
  match behind with
  | none => if front.length = 8 then some front else none
  | some behind =>
    let known := front.length + behind.length
    if known < 8 then some (front ++ List.replicate (8 - known) 0 ++ behind) else none

/-- The start and length of the first of the longest runs of zeros. -/
def longestZeros : List Nat → Nat → Nat × Nat
  | [], _ => (0, 0)
  | p :: ps, start =>
    let run := ((p :: ps).takeWhile (· == 0)).length
    let later := longestZeros ps (start + 1)
    if run ≥ later.2 && run > 0 then (start, run) else later

private def hexPieces (pieces : List Nat) : String :=
  ":".intercalate (pieces.map fun p => String.ofList (Nat.toDigits 16 p))

/-- The longest run of at least two zeros is left out; digits are in lower case. -/
def renderIpv6 (pieces : List Nat) : String :=
  let (start, run) := longestZeros pieces 0
  if run < 2 then hexPieces pieces
  else hexPieces (pieces.take start) ++ "::" ++ hexPieces (pieces.drop (start + run))

end DatabaseResource.Url
