import DatabaseResource.Json.Lexeme

/-!
# Reading JSON values

`readValue` reads a value that is kept, down to a number of levels; `skipValue` passes over a value
that nobody keeps, however deep. `foldItems` and `foldMembers` walk through a list or an object and
leave it to their argument what becomes of each part, so that a document of a known shape is read
without a value in between.
-/

namespace DatabaseResource.Json

/-! ## Lists and objects -/

/-- The items behind the first one (or behind the bracket), each read by `item`.
`fuel` bounds their number. -/
def foldItems {σ : Type} (item : σ → List Char → Except ReadError (σ × List Char)) (fuel : Nat)
    (s : σ) (cs : List Char) : Except ReadError (σ × List Char) :=
  match fuel with
  | 0 => .error (.here .endInList [])
  | fuel + 1 =>
    match skipSpace cs with
    | [] => .error (.here .endInList [])
    | ']' :: cs => .ok (s, cs)
    | ',' :: cs =>
      match skipSpace cs with
      | [] => .error (.here .endInValue [])
      | ']' :: cs => .error (.next .trailingComma (']' :: cs))
      | cs => do
        let (s, cs) ← item s cs
        foldItems item fuel s cs
    | cs => .error (.next .listCommaOrEndExpected cs)

/-- The items of a list behind its opening bracket. -/
def readList {σ : Type} (item : σ → List Char → Except ReadError (σ × List Char)) (s : σ)
    (cs : List Char) : Except ReadError (σ × List Char) :=
  match skipSpace cs with
  | [] => .error (.here .endInList [])
  | ']' :: cs => .ok (s, cs)
  | cs => do
    let (s, cs) ← item s cs
    foldItems item (cs.length + 1) s cs

/-- The member whose name begins here. -/
def readMember {σ : Type} (member : σ → String → List Char → Except ReadError (σ × List Char))
    (s : σ) (cs : List Char) : Except ReadError (σ × List Char) := do
  let (name, cs) ← readString cs
  member s name cs

/-- The members behind the first one, each handed on with its name; `member` gets the text from
the colon on. `fuel` bounds their number. -/
def foldMembers {σ : Type} (member : σ → String → List Char → Except ReadError (σ × List Char))
    (fuel : Nat) (s : σ) (cs : List Char) : Except ReadError (σ × List Char) :=
  match fuel with
  | 0 => .error (.here .endInObject [])
  | fuel + 1 =>
    match skipSpace cs with
    | [] => .error (.here .endInObject [])
    | '}' :: cs => .ok (s, cs)
    | ',' :: cs =>
      match skipSpace cs with
      | [] => .error (.here .endInValue [])
      | '"' :: cs => do
        let (s, cs) ← readMember member s cs
        foldMembers member fuel s cs
      | '}' :: cs => .error (.next .trailingComma ('}' :: cs))
      | cs => .error (.next .nameNotText cs)
    | cs => .error (.next .objectCommaOrEndExpected cs)

/-- The members of an object behind its opening brace. -/
def readObject {σ : Type} (member : σ → String → List Char → Except ReadError (σ × List Char))
    (s : σ) (cs : List Char) : Except ReadError (σ × List Char) :=
  match skipSpace cs with
  | [] => .error (.here .endInObject [])
  | '}' :: cs => .ok (s, cs)
  | '"' :: cs => do
    let (s, cs) ← readMember member s cs
    foldMembers member (cs.length + 1) s cs
  | cs => .error (.next .nameNotText cs)

/-- The text behind the colon of a member. -/
def readColon (cs : List Char) : Except ReadError (List Char) :=
  match skipSpace cs with
  | [] => .error (.here .endInObject [])
  | ':' :: cs => .ok cs
  | cs => .error (.next .colonExpected cs)

/-! ## Values that are kept -/

/-- The number of levels that a document may have. -/
def maxLevels : Nat := 127

/-- A value of at most `levels` levels of lists and objects. -/
def readValue (levels : Nat) (cs : List Char) : Except ReadError (Value × List Char) :=
  match skipSpace cs with
  | [] => .error (.here .endInValue [])
  | 'n' :: cs => do .ok (.null, ← readWord ['u', 'l', 'l'] cs)
  | 't' :: cs => do .ok (.bool true, ← readWord ['r', 'u', 'e'] cs)
  | 'f' :: cs => do .ok (.bool false, ← readWord ['a', 'l', 's', 'e'] cs)
  | '-' :: cs => do
    let (n, cs) ← readNumber true cs
    .ok (.number n, cs)
  | '"' :: cs => do
    let (s, cs) ← readString cs
    .ok (.text s, cs)
  | '[' :: cs =>
    match levels with
    | 0 => .error (.next .tooDeep ('[' :: cs))
    | levels + 1 => do
      let (items, cs) ← readList (fun items cs => do
        let (v, cs) ← readValue levels cs
        .ok (v :: items, cs)) [] cs
      .ok (.array items.reverse, cs)
  | '{' :: cs =>
    match levels with
    | 0 => .error (.next .tooDeep ('{' :: cs))
    | levels + 1 => do
      let (members, cs) ← readObject (fun members name cs => do
        let cs ← readColon cs
        let (v, cs) ← readValue levels cs
        .ok (put members name v, cs)) [] cs
      .ok (.object members, cs)
  | c :: cs =>
    if isDigit c then do
      let (n, cs) ← readNumber false (c :: cs)
      .ok (.number n, cs)
    else .error (.next .valueExpected (c :: cs))

/-- Refuses anything but white space behind a document. -/
def readEnd (cs : List Char) : Except ReadError Unit :=
  match skipSpace cs with
  | [] => .ok ()
  | cs => .error (.next .trailingCharacters cs)

/-- The value that a whole text is. -/
def read (text : String) : Except ReadError Value := do
  let (v, rest) ← readValue maxLevels text.toList
  readEnd rest
  .ok v

/-! ## Values that nobody keeps -/

/-- A list or an object that is still open. -/
inductive Bracket where
  | list
  | object
deriving DecidableEq, Repr

def Bracket.closing : Bracket → Char
  | list => ']'
  | object => '}'

def Bracket.atEnd : Bracket → Cause
  | list => .endInList
  | object => .endInObject

def Bracket.commaOrEndExpected : Bracket → Cause
  | list => .listCommaOrEndExpected
  | object => .objectCommaOrEndExpected

/-- Passes over a member's name and colon. -/
def skipName (cs : List Char) : Except ReadError (List Char) :=
  match skipSpace cs with
  | [] => .error (.here .endInObject [])
  | '"' :: cs => do
    let cs ← skipString cs
    readColon cs
  | cs => .error (.next .nameNotText cs)

/-- Passes over what stands in front of the next value in a bracket. -/
def skipToValue (bracket : Bracket) (cs : List Char) : Except ReadError (List Char) :=
  match bracket with
  | .list => .ok cs
  | .object => skipName cs

mutual

/-- Passes over a value, and then over what the open brackets (innermost first) still hold.
`fuel` bounds the number of steps. -/
def skipInto (fuel : Nat) (brackets : List Bracket) (cs : List Char) :
    Except ReadError (List Char) :=
  match fuel with
  | 0 => .error (.here .endInValue [])
  | fuel + 1 =>
    match skipSpace cs with
    | [] => .error (.here .endInValue [])
    | 'n' :: cs => do skipOut fuel brackets (← readWord ['u', 'l', 'l'] cs)
    | 't' :: cs => do skipOut fuel brackets (← readWord ['r', 'u', 'e'] cs)
    | 'f' :: cs => do skipOut fuel brackets (← readWord ['a', 'l', 's', 'e'] cs)
    | '-' :: cs => do skipOut fuel brackets (← skipNumber cs)
    | '"' :: cs => do skipOut fuel brackets (← skipString cs)
    | '[' :: cs => skipFirst fuel .list brackets cs
    | '{' :: cs => skipFirst fuel .object brackets cs
    | c :: cs =>
      if isDigit c then do skipOut fuel brackets (← skipNumber (c :: cs))
      else .error (.next .valueExpected (c :: cs))

/-- Passes over what a bracket holds that has just been opened. -/
def skipFirst (fuel : Nat) (bracket : Bracket) (brackets : List Bracket) (cs : List Char) :
    Except ReadError (List Char) :=
  match fuel with
  | 0 => .error (.here .endInValue [])
  | fuel + 1 =>
    match skipSpace cs with
    | [] => .error (.here bracket.atEnd [])
    | c :: cs =>
      if c = bracket.closing then skipOut fuel brackets cs
      else do skipInto fuel (bracket :: brackets) (← skipToValue bracket (c :: cs))

/-- Passes over what the open brackets still hold behind a value. -/
def skipOut (fuel : Nat) (brackets : List Bracket) (cs : List Char) :
    Except ReadError (List Char) :=
  match fuel, brackets with
  | _, [] => .ok cs
  | 0, _ => .error (.here .endInValue [])
  | fuel + 1, bracket :: outer =>
    match skipSpace cs with
    | [] => .error (.here bracket.atEnd [])
    | c :: cs =>
      if c = ',' then do skipInto fuel brackets (← skipToValue bracket cs)
      else if c = bracket.closing then skipOut fuel outer cs
      else .error (.next bracket.commaOrEndExpected (c :: cs))

end

/-- Passes over a value of any depth. -/
def skipValue (cs : List Char) : Except ReadError (List Char) :=
  skipInto (2 * cs.length + 2) [] cs

end DatabaseResource.Json
