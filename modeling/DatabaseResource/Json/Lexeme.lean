import DatabaseResource.Json.ReadError
import DatabaseResource.Json.Value
import DatabaseResource.Text.Percent

/-!
# Words, strings and numbers of a JSON text

Each reader gets the text from the place where the lexeme begins (for a string: after its
quotation mark) and gives its value and the rest. Each has a twin that only passes over the
lexeme: a value that nobody keeps may hold a number out of range or half of a surrogate pair.
-/

namespace DatabaseResource.Json

def isSpace (c : Char) : Bool := c == ' ' || c == '\n' || c == '\t' || c == '\r'

/-- The text without the white space in front. -/
def skipSpace (cs : List Char) : List Char := cs.dropWhile isSpace

/-- Passes over the rest of a word. -/
def readWord : List Char → List Char → Except ReadError (List Char)
  | [], cs => .ok cs
  | _ :: _, [] => .error (.here .endInValue [])
  | w :: word, c :: cs => if c = w then readWord word cs else .error (.next .wordExpected (c :: cs))

/-! ## Strings -/

/-- Four hexadecimal digits, or an error behind four bytes of text. -/
def readHex (cs : List Char) : Except ReadError (Nat × List Char) :=
  if Text.byteCount (cs.take 4) < 4 then .error (.here .endInString [])
  else
    match cs with
    | a :: b :: c :: d :: rest =>
      match Text.hexValue? a, Text.hexValue? b, Text.hexValue? c, Text.hexValue? d with
      | some a, some b, some c, some d => .ok (((a * 16 + b) * 16 + c) * 16 + d, rest)
      | _, _, _, _ => .error ⟨.invalidEscape, Text.byteCount cs - 4⟩
    | _ => .error ⟨.invalidEscape, Text.byteCount cs - 4⟩

/-- The character behind `\u`, which may take two escapes. -/
def readUnicodeEscape (cs : List Char) : Except ReadError (Char × List Char) := do
  let (high, cs) ← readHex cs
  if 0xDC00 ≤ high ∧ high ≤ 0xDFFF then .error (.here .loneSurrogate cs)
  else if high < 0xD800 ∨ 0xDBFF < high then .ok (Char.ofNat high, cs)
  else
    match cs with
    | [] => .error (.here .endInString [])
    | '\\' :: [] => .error (.here .endInString [])
    | '\\' :: 'u' :: cs =>
      let (low, cs) ← readHex cs
      if low < 0xDC00 ∨ 0xDFFF < low then .error (.here .loneSurrogate cs)
      else .ok (Char.ofNat (0x10000 + (high - 0xD800) * 0x400 + (low - 0xDC00)), cs)
    | '\\' :: cs => .error (.next .unfinishedSurrogatePair cs)
    | cs => .error (.next .unfinishedSurrogatePair cs)

/-- The character that a letter behind a backslash stands for. -/
def shortEscape? : Char → Option Char
  | '"' => some '"'
  | '\\' => some '\\'
  | '/' => some '/'
  | 'b' => some '\x08'
  | 'f' => some '\x0c'
  | 'n' => some '\n'
  | 'r' => some '\r'
  | 't' => some '\t'
  | _ => none

/-- The character behind a backslash. -/
def readEscape : List Char → Except ReadError (Char × List Char)
  | [] => .error (.here .endInString [])
  | 'u' :: cs => readUnicodeEscape cs
  | c :: cs =>
    match shortEscape? c with
    | some d => .ok (d, cs)
    | none => .error (.next .invalidEscape (c :: cs))

/-- The characters up to the closing quotation mark, in front of those already read (last one
first). `fuel` bounds the number of characters. -/
def readChars (fuel : Nat) (done : List Char) (cs : List Char) :
    Except ReadError (List Char × List Char) :=
  match fuel, cs with
  | 0, _ => .error (.here .endInString [])
  | _ + 1, [] => .error (.here .endInString [])
  | _ + 1, '"' :: cs => .ok (done.reverse, cs)
  | fuel + 1, '\\' :: cs =>
    match readEscape cs with
    | .ok (c, cs) => readChars fuel (c :: done) cs
    | .error e => .error e
  | fuel + 1, c :: cs =>
    if c.toNat < 0x20 then .error (.here .controlCharacter cs)
    else readChars fuel (c :: done) cs

/-- A string behind its opening quotation mark. -/
def readString (cs : List Char) : Except ReadError (String × List Char) := do
  let (chars, rest) ← readChars (cs.length + 1) [] cs
  .ok (String.ofList chars, rest)

/-- Passes over what follows a backslash. -/
def skipEscape : List Char → Except ReadError (List Char)
  | [] => .error (.here .endInString [])
  | 'u' :: cs => (readHex cs).map (·.2)
  | c :: cs =>
    match shortEscape? c with
    | some _ => .ok cs
    | none => .error (.next .invalidEscape (c :: cs))

/-- Passes over the characters up to the closing quotation mark. -/
def skipChars (fuel : Nat) (cs : List Char) : Except ReadError (List Char) :=
  match fuel, cs with
  | 0, _ => .error (.here .endInString [])
  | _ + 1, [] => .error (.here .endInString [])
  | _ + 1, '"' :: cs => .ok cs
  | fuel + 1, '\\' :: cs =>
    match skipEscape cs with
    | .ok cs => skipChars fuel cs
    | .error e => .error e
  | fuel + 1, c :: cs =>
    if c.toNat < 0x20 then .error (.here .controlCharacter (c :: cs)) else skipChars fuel cs

/-- Passes over a string behind its opening quotation mark. -/
def skipString (cs : List Char) : Except ReadError (List Char) := skipChars (cs.length + 1) cs

/-! ## Numbers -/

def isDigit (c : Char) : Bool := '0' ≤ c && c ≤ '9'

def digitValue (c : Char) : Nat := c.toNat - 48

/-- The digits in front of a text, and the rest. -/
def takeDigits (cs : List Char) : List Char × List Char :=
  (cs.takeWhile isDigit, cs.dropWhile isDigit)

/-- The largest significand that is kept, and the largest exponent that is computed with. -/
def maxSignificand : Nat := 1 <<< 64 - 1

def maxExponent : Nat := 1 <<< 31 - 1

/-- Appends digits to a number as long as it does not exceed the limit; gives the number and
the count of the digits that are left over. -/
def appendDigits (limit acc : Nat) : List Char → Nat × Nat
  | [] => (acc, 0)
  | d :: ds =>
    if acc * 10 + digitValue d ≤ limit then appendDigits limit (acc * 10 + digitValue d) ds
    else (acc, ds.length + 1)

/-- A positive power of ten up to `1e308`. -/
def powerOfTen (n : Nat) : Float := Float.ofScientific 1 false n

/-- A whole number times a power of ten, rounded once to a double and once more by the
multiplication or division; `none` if it is out of range. Beyond `1e308` it is divided in steps. -/
def scaled? (fuel : Nat) (f : Float) (exponent : Int) : Option Float :=
  if exponent.natAbs ≤ 308 then
    if 0 ≤ exponent then
      let g := f * powerOfTen exponent.natAbs
      if g.isInf then none else some g
    else some (f / powerOfTen exponent.natAbs)
  else if f == 0 then some f
  else if 0 ≤ exponent then none
  else
    match fuel with
    | 0 => some f
    | fuel + 1 => scaled? fuel (f / powerOfTen 308) (exponent + 308)

def readDouble (negative : Bool) (significand : Nat) (exponent : Int) (rest : List Char) :
    Except ReadError (Number × List Char) :=
  match scaled? 4 significand.toUInt64.toFloat exponent with
  | none => .error (.here .numberOutOfRange rest)
  | some f => .ok (.double (.ofFloat (if negative then -f else f)), rest)

/-- The number with the exponent that follows the letter `e`. -/
def readExponent (negative : Bool) (significand : Nat) (exponent : Int) (cs : List Char) :
    Except ReadError (Number × List Char) :=
  let (down, cs) := match cs with
    | '+' :: cs => (false, cs)
    | '-' :: cs => (true, cs)
    | cs => (false, cs)
  match cs with
  | [] => .error (.here .endInValue [])
  | c :: _ =>
    if isDigit c then
      let (digits, rest) := takeDigits cs
      let (value, left) := appendDigits maxExponent 0 digits
      if left = 0 then
        readDouble negative significand (if down then exponent - value else exponent + value) rest
      else if significand ≠ 0 ∧ ¬down then
        .error ⟨.numberOutOfRange, Text.byteCount rest + (left - 1)⟩
      else .ok (.double (.ofFloat (if negative then -0.0 else 0.0)), rest)
    else .error (.next .invalidNumber cs)

/-- The value of a whole number without fraction and exponent. -/
def wholeNumber (negative : Bool) (significand : Nat) : Number :=
  if !negative then .integer significand
  else if 1 ≤ significand ∧ significand ≤ 1 <<< 63 then .integer (-significand)
  else .double (.ofFloat (-significand.toUInt64.toFloat))

/-- The number behind its whole part: `left` digits of that did not fit the significand. -/
def readFraction (negative : Bool) (significand left : Nat) (cs : List Char) :
    Except ReadError (Number × List Char) :=
  match cs with
  | '.' :: cs =>
    let (digits, rest) := takeDigits cs
    match digits, rest with
    | [], [] => .error (.here .endInValue [])
    | [], rest => .error (.next .invalidNumber rest)
    | digits, rest =>
      let (significand', unfit) := appendDigits maxSignificand significand digits
      let exponent : Int := (left : Int) - ((digits.length - unfit : Nat) : Int)
      match rest with
      | c :: rest' =>
        if c = 'e' ∨ c = 'E' then readExponent negative significand' exponent rest'
        else readDouble negative significand' exponent rest
      | [] => readDouble negative significand' exponent []
  | c :: cs' =>
    if c = 'e' ∨ c = 'E' then readExponent negative significand left cs'
    else if left = 0 then .ok (wholeNumber negative significand, cs)
    else readDouble negative significand left cs
  | [] =>
    if left = 0 then .ok (wholeNumber negative significand, cs)
    else readDouble negative significand left cs

/-- A number behind its sign. -/
def readNumber (negative : Bool) (cs : List Char) : Except ReadError (Number × List Char) :=
  match cs with
  | [] => .error (.here .endInValue [])
  | '0' :: cs =>
    match cs with
    | c :: _ =>
      if isDigit c then .error (.next .invalidNumber cs) else readFraction negative 0 0 cs
    | [] => readFraction negative 0 0 cs
  | c :: _ =>
    if isDigit c then
      let (digits, rest) := takeDigits cs
      let (significand, left) := appendDigits maxSignificand 0 digits
      readFraction negative significand left rest
    else .error (.next .invalidNumber cs)

/-- Passes over an exponent behind its letter. -/
def skipExponent (cs : List Char) : Except ReadError (List Char) :=
  let cs := match cs with
    | '+' :: cs => cs
    | '-' :: cs => cs
    | cs => cs
  match cs with
  | c :: _ => if isDigit c then .ok (takeDigits cs).2 else .error (.next .invalidNumber cs)
  | [] => .error (.next .invalidNumber cs)

/-- Passes over an exponent, if there is one. -/
def skipOptionalExponent (cs : List Char) : Except ReadError (List Char) :=
  match cs with
  | c :: cs' => if c = 'e' ∨ c = 'E' then skipExponent cs' else .ok cs
  | [] => .ok cs

/-- Passes over fraction and exponent, if there are any. -/
def skipFraction (cs : List Char) : Except ReadError (List Char) :=
  match cs with
  | '.' :: cs =>
    let (digits, rest) := takeDigits cs
    if digits.isEmpty then .error (.next .invalidNumber rest) else skipOptionalExponent rest
  | cs => skipOptionalExponent cs

/-- Passes over a number behind its sign. -/
def skipNumber (cs : List Char) : Except ReadError (List Char) :=
  match cs with
  | '0' :: cs =>
    match cs with
    | c :: _ => if isDigit c then .error (.next .invalidNumber cs) else skipFraction cs
    | [] => .ok cs
  | c :: _ =>
    if isDigit c then skipFraction (takeDigits cs).2 else .error (.next .invalidNumber cs)
  | [] => .error (.next .invalidNumber cs)

end DatabaseResource.Json
