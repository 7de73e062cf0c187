import DatabaseResource.Json.Reader

/-!
# What JSON texts denote

The grammar of JSON texts: which text denotes which `Json.Doc` (`Json.Denotes`). White space may
stand in front of every token. A document keeps all that its text says: the members of an object in
their order, with names that are repeated; a string that holds half of a surrogate pair, and a
number out of range, as `none`. What is a numeral is said apart from any reader; which number it is
is not, as its rounding and its range are the reader's own (`Json.numberOf?`).
-/

namespace DatabaseResource.Json

/-! ## Strings -/

/-- A part of a string: a character, as it stands or behind a backslash, or the number that follows
`\u`. -/
inductive Piece where
  | char (c : Char)
  | code (number : Nat)
deriving DecidableEq, Repr

/-- The number is the first half of a surrogate pair. -/
abbrev IsHigh (n : Nat) : Prop := 0xD800 ≤ n ∧ n ≤ 0xDBFF

/-- The number is the second half of a surrogate pair. -/
abbrev IsLow (n : Nat) : Prop := 0xDC00 ≤ n ∧ n ≤ 0xDFFF

/-- The character that a surrogate pair stands for. -/
def paired (high low : Nat) : Char :=
  Char.ofNat (0x10000 + (high - 0xD800) * 0x400 + (low - 0xDC00))

/-- The characters that pieces are; `none` if half of a surrogate pair stands alone. -/
def decode? : List Piece → Option (List Char)
  | [] => some []
  | .char c :: ps => (decode? ps).map (c :: ·)
  | .code n :: ps =>
    if IsHigh n then
      match ps with
      | .code low :: ps => if IsLow low then (decode? ps).map (paired n low :: ·) else none
      | _ => none
    else if IsLow n then none
    else (decode? ps).map (Char.ofNat n :: ·)

section Decode

variable {n low : Nat} {ps : List Piece}

theorem decode?_single (hhigh : ¬ IsHigh n) (hlow : ¬ IsLow n) :
    decode? (.code n :: ps) = (decode? ps).map (Char.ofNat n :: ·) := by
  rw [decode?.eq_def]
  dsimp only
  rw [if_neg hhigh, if_neg hlow]

theorem decode?_low (hlow : IsLow n) : decode? (.code n :: ps) = none := by
  have hhigh : ¬ IsHigh n := by omega
  rw [decode?.eq_def]
  dsimp only
  rw [if_neg hhigh, if_pos hlow]

theorem decode?_pair (hhigh : IsHigh n) (hlow : IsLow low) :
    decode? (.code n :: .code low :: ps) = (decode? ps).map (paired n low :: ·) := by
  rw [decode?.eq_def]
  dsimp only
  rw [if_pos hhigh, if_pos hlow]

/-- The first half of a pair without the second one. -/
theorem decode?_high (hhigh : IsHigh n) (halone : ∀ low ps', ps = .code low :: ps' → ¬ IsLow low) :
    decode? (.code n :: ps) = none := by
  rw [decode?.eq_def]
  dsimp only
  rw [if_pos hhigh]
  split
  · exact if_neg (halone _ _ rfl)
  · rfl

end Decode

/-- The number that four hexadecimal digits are. -/
def hexNumber? (a b c d : Char) : Option Nat := do
  some ((((← Text.hexValue? a) * 16 + (← Text.hexValue? b)) * 16 + (← Text.hexValue? c)) * 16
    + (← Text.hexValue? d))

/-- The text behind an opening quotation mark consists of pieces, the closing mark, and a rest. -/
inductive Letters : List Char → List Piece → List Char → Prop where
  | closing {rest} : Letters ('"' :: rest) [] rest
  | plain {c cs ps rest} (quote : c ≠ '"') (backslash : c ≠ '\\') (control : 0x20 ≤ c.toNat)
      (more : Letters cs ps rest) : Letters (c :: cs) (.char c :: ps) rest
  | short {e c cs ps rest} (escape : shortEscape? e = some c) (more : Letters cs ps rest) :
      Letters ('\\' :: e :: cs) (.char c :: ps) rest
  | code {a b c d n cs ps rest} (hex : hexNumber? a b c d = some n) (more : Letters cs ps rest) :
      Letters ('\\' :: 'u' :: a :: b :: c :: d :: cs) (.code n :: ps) rest

/-- The string that pieces are. -/
def textOf? (ps : List Piece) : Option String := (decode? ps).map String.ofList

/-! ## Numbers -/

/-- A whole number has no zero in front. -/
inductive Whole : List Char → Prop where
  | zero : Whole ['0']
  | digits {d ds} (first : isDigit d = true) (nonzero : d ≠ '0')
      (more : ∀ c ∈ ds, isDigit c = true) : Whole (d :: ds)

inductive Fraction : List Char → Prop where
  | none : Fraction []
  | digits {d ds} (first : isDigit d = true) (more : ∀ c ∈ ds, isDigit c = true) :
      Fraction ('.' :: d :: ds)

inductive Sign : List Char → Prop where
  | none : Sign []
  | plus : Sign ['+']
  | minus : Sign ['-']

inductive Exponent : List Char → Prop where
  | none : Exponent []
  | digits {e sign d ds} (letter : e = 'e' ∨ e = 'E') (sign_ok : Sign sign)
      (first : isDigit d = true) (more : ∀ c ∈ ds, isDigit c = true) :
      Exponent (e :: (sign ++ d :: ds))

/-- A number behind its sign. -/
inductive Numeral : List Char → Prop where
  | mk {whole fraction exponent} (whole_ok : Whole whole) (fraction_ok : Fraction fraction)
      (exponent_ok : Exponent exponent) : Numeral (whole ++ (fraction ++ exponent))

/-- The number that the reader makes of a numeral that stands alone; `none` if it is out of
range. -/
def numberOf? (negative : Bool) (numeral : List Char) : Option Number :=
  (readNumber negative numeral).toOption.map Prod.fst

/-! ## Documents -/

/-- What a JSON text denotes. -/
inductive Doc where
  | null
  | bool (value : Bool)
  | number (value : Option Number)
  | text (value : Option String)
  | array (items : List Doc)
  | object (members : List (Option String × Doc))

/-- What a part of a text is: a value, what stands behind an opening bracket or behind a part of
what it holds, or what follows a member's name. -/
inductive Part where
  | value (d : Doc)
  | items (ds : List Doc)
  | moreItems (ds : List Doc)
  | members (ms : List (Option String × Doc))
  | moreMembers (ms : List (Option String × Doc))
  | named (d : Doc)

/-- A text begins with a part, and has a rest. -/
inductive Spells : Part → List Char → List Char → Prop where
  | space {part c cs rest} (space : isSpace c = true) (more : Spells part cs rest) :
      Spells part (c :: cs) rest
  | wordNull {rest} : Spells (.value .null) ('n' :: 'u' :: 'l' :: 'l' :: rest) rest
  | wordTrue {rest} : Spells (.value (.bool true)) ('t' :: 'r' :: 'u' :: 'e' :: rest) rest
  | wordFalse {rest} : Spells (.value (.bool false)) ('f' :: 'a' :: 'l' :: 's' :: 'e' :: rest) rest
  | number {numeral rest} (ok : Numeral numeral) :
      Spells (.value (.number (numberOf? false numeral))) (numeral ++ rest) rest
  | negative {numeral rest} (ok : Numeral numeral) :
      Spells (.value (.number (numberOf? true numeral))) ('-' :: (numeral ++ rest)) rest
  | text {cs ps rest} (letters : Letters cs ps rest) :
      Spells (.value (.text (textOf? ps))) ('"' :: cs) rest
  | array {cs ds rest} (items : Spells (.items ds) cs rest) :
      Spells (.value (.array ds)) ('[' :: cs) rest
  | object {cs ms rest} (members : Spells (.members ms) cs rest) :
      Spells (.value (.object ms)) ('{' :: cs) rest
  | noItem {rest} : Spells (.items []) (']' :: rest) rest
  | item {cs d mid ds rest} (first : Spells (.value d) cs mid)
      (more : Spells (.moreItems ds) mid rest) : Spells (.items (d :: ds)) cs rest
  | lastItem {rest} : Spells (.moreItems []) (']' :: rest) rest
  | nextItem {cs d ds rest} (next : Spells (.items (d :: ds)) cs rest) :
      Spells (.moreItems (d :: ds)) (',' :: cs) rest
  | noMember {rest} : Spells (.members []) ('}' :: rest) rest
  | member {cs ps mid d behind ms rest} (name : Letters cs ps mid)
      (value : Spells (.named d) mid behind) (more : Spells (.moreMembers ms) behind rest) :
      Spells (.members ((textOf? ps, d) :: ms)) ('"' :: cs) rest
  | lastMember {rest} : Spells (.moreMembers []) ('}' :: rest) rest
  | nextMember {cs m ms rest} (next : Spells (.members (m :: ms)) cs rest) :
      Spells (.moreMembers (m :: ms)) (',' :: cs) rest
  | named {cs d rest} (value : Spells (.value d) cs rest) : Spells (.named d) (':' :: cs) rest

/-- The whole text denotes a document. -/
def Denotes (text : String) (d : Doc) : Prop :=
  ∃ rest, Spells (.value d) text.toList rest ∧ skipSpace rest = []

/-! ## The values of documents -/

/-- The value of a document with at most a number of levels; `none` if it has more, or if a string
or a number in it has no value. Of the values of a repeated name the last one counts. -/
def Doc.valueIn? (levels : Nat) : Doc → Option Value
  | null => some .null
  | bool b => some (.bool b)
  | number n => n.map .number
  | text s => s.map .text
  | array ds =>
    match levels with
    | 0 => none
    | levels + 1 => (ds.mapM (Doc.valueIn? levels)).map .array
  | object ms =>
    match levels with
    | 0 => none
    | levels + 1 =>
      (ms.foldlM (fun (values : List (String × Value)) (m : Option String × Doc) => do
        let name ← m.1
        let v ← Doc.valueIn? levels m.2
        some (put values name v)) []).map .object

end DatabaseResource.Json
