/-!
# Punycode

A word with characters outside ASCII, written in ASCII. The ASCII characters come first; behind
the last hyphen stand numbers that say which other characters are put in, and where. They are put
in by code point, and from left to right among equal ones; each number counts the places that are
passed over since the one before. Digits are in base 36 with a threshold that adapts to the sizes.
-/

namespace DatabaseResource.Url.Punycode

/-- A digit below 36: a letter, or a decimal digit from 26 on. -/
def digit (n : Nat) : Char := if n < 26 then Char.ofNat (97 + n) else Char.ofNat (22 + n)

def digitValue? (c : Char) : Option Nat :=
  if 'a' ≤ c ∧ c ≤ 'z' then some (c.toNat - 97)
  else if 'A' ≤ c ∧ c ≤ 'Z' then some (c.toNat - 65)
  else if '0' ≤ c ∧ c ≤ '9' then some (c.toNat - 22)
  else none

/-- From this digit on, a number goes on behind the digit. -/
def threshold (bias place : Nat) : Nat := min 26 (max 1 (place - bias))

theorem one_le_threshold (bias place : Nat) : 1 ≤ threshold bias place := by
  simp only [threshold]; omega

/-- Divides by 35 until the number is at most 455, and adds 36 for each division. -/
def reduce (delta place : Nat) : Nat × Nat :=
  if 455 < delta then reduce (delta / 35) (place + 36) else (delta, place)
termination_by delta
decreasing_by omega

/-- The bias behind a number, for a word that has `size` characters by now. -/
def adapt (delta size : Nat) (first : Bool) : Nat :=
  let delta := if first then delta / 700 else delta / 2
  let (delta, place) := reduce (delta + delta / size) 0
  place + 36 * delta / (delta + 38)

/-- A number in digits, the lowest one first. -/
def writeNumber (bias place n : Nat) : List Char :=
  let t := threshold bias place
  if n < t then [digit n]
  else digit (t + (n - t) % (36 - t)) :: writeNumber bias (place + 36) ((n - t) / (36 - t))
termination_by n
decreasing_by
  have := one_le_threshold bias place
  calc (n - threshold bias place) / (36 - threshold bias place)
      ≤ n - threshold bias place := Nat.div_le_self ..
    _ < n := by omega

/-- The characters outside ASCII with their places, in the order in which they are put in. -/
def insertions (word : List Char) : List (Nat × Nat) :=
  let places := word.zipIdx.filter (fun p => 0x80 ≤ p.1.toNat) |>.map fun p => (p.1.toNat, p.2)
  places.mergeSort fun a b => a.1 < b.1 || (a.1 == b.1 && a.2 ≤ b.2)

/-- The numbers for the insertions that are left, in a word of `size` characters. -/
def writeInsertions (word : List Char) : List (Nat × Nat) → (code index bias size : Nat) →
    (first : Bool) → List Char
  | [], _, _, _, _, _ => []
  | (c, place) :: later, code, index, bias, size, first =>
    let i := ((word.take place).filter (·.toNat ≤ c)).length
    let delta := (c - code) * (size + 1) + i - index
    writeNumber bias 36 delta
      ++ writeInsertions word later c (i + 1) (adapt delta (size + 1) first) (size + 1) false

/-- A word in ASCII characters. -/
def encode (word : List Char) : List Char :=
  let basic := word.filter (·.toNat < 0x80)
  (if basic.isEmpty then [] else basic ++ ['-'])
    ++ writeInsertions word (insertions word) 0x80 0 72 basic.length true

/-- Where the reading of a number stands. -/
structure Progress where
  word : List Char
  code : Nat
  start : Nat
  bias : Nat
  index : Nat
  weight : Nat
  place : Nat

/-- Puts in the characters that the digits say. -/
def readInsertions (p : Progress) : List Char → Option (List Char)
  | [] => if p.place = 36 then some p.word else none
  | c :: cs =>
    match digitValue? c with
    | none => none
    | some d =>
      let index := p.index + d * p.weight
      let t := threshold p.bias p.place
      if index ≥ 2 ^ 32 then none
      else if d < t then
        let size := p.word.length + 1
        let code := p.code + index / size
        let spot := index % size
        if code > 0x10FFFF ∨ (0xD800 ≤ code ∧ code ≤ 0xDFFF) then none
        else
          readInsertions
            { word := p.word.take spot ++ Char.ofNat code :: p.word.drop spot
              code, start := spot + 1, bias := adapt (index - p.start) size (p.start == 0)
              index := spot + 1, weight := 1, place := 36 } cs
      else
        readInsertions
          { p with index, weight := p.weight * (36 - t), place := p.place + 36 } cs

/-- The word that a text in ASCII stands for. -/
def decode? (text : List Char) : Option (List Char) :=
  let behind := (text.reverse.takeWhile (· != '-')).reverse
  let basic := text.take (text.length - behind.length - 1)
  readInsertions ⟨basic, 0x80, 0, 72, 0, 1, 36⟩ behind

end DatabaseResource.Url.Punycode
