import DatabaseResource.Config.Settings
import DatabaseResource.Text.Blank

/-!
# Environment files

Settings for the environment in a text file: lines of the form `NAME=value`, with comments,
quotation marks, escapes and references to other variables. A file does not change what the
environment sets already, and nothing counts from the first bad line on.
-/

namespace DatabaseResource.EnvFile

/-! ## Logical lines

A line goes on behind its end while a quotation mark is open or a backslash stands at its end. -/

/-- What the end of a text leaves open. -/
inductive Ending where
  | complete
  | blank
  | escape
  | weak
  | weakEscape
  | strong
  | strongEscape
  | comment
deriving DecidableEq, Repr

/-- The character behind a blank or a word. -/
private def Ending.outside (c : Char) (otherwise : Ending) : Ending :=
  if c = '\\' then .escape
  else if c = '"' then .weak
  else if c = '\'' then .strong
  else otherwise

/-- What a text leaves open, and how many of its characters stand before a comment. -/
def endingOf : Ending → List Char → Ending × Nat
  | e, [] => (e, 0)
  | e, c :: cs =>
    let isGap := Text.isBlank c && c != '\n' && c != '\r'
    let next : Ending := match e with
      | .blank => if c = '#' then .comment else .outside c .complete
      | .complete => if isGap then .blank else .outside c .complete
      | .escape => .complete
      | .weak => if c = '\\' then .weakEscape else if c = '"' then .complete else .weak
      | .weakEscape => .weak
      | .strong => if c = '\\' then .strongEscape else if c = '\'' then .complete else .strong
      | .strongEscape => .strong
      | .comment => .comment
    if next = .comment then (.comment, 0)
    else
      let (last, n) := endingOf next cs
      (last, n + 1)

/-- A text cut behind each line end. -/
def splitLines : List Char → List (List Char)
  | [] => []
  | c :: cs =>
    if c = '\n' then [c] :: splitLines cs
    else
      match splitLines cs with
      | [] => [[c]]
      | line :: lines => (c :: line) :: lines

/-- A text without the line end behind it. -/
def dropLineEnd (cs : List Char) : List Char :=
  match cs.reverse with
  | '\n' :: '\r' :: rest => rest.reverse
  | '\n' :: rest => rest.reverse
  | _ => cs

/-- The logical lines; `none` stands for one that the file does not end. `soFar` is what the
current one has by now. -/
def logicalLines (soFar : List Char) (ending : Ending) : List (List Char) →
    List (Option (List Char))
  | [] => if soFar.isEmpty then [] else [none]
  | line :: lines =>
    if (Text.trimLeft (soFar ++ line)).head? = some '#' then
      some [] :: logicalLines [] .complete lines
    else
      let (last, kept) := endingOf ending line
      match last with
      | .complete | .blank =>
        some (dropLineEnd (soFar ++ line)) :: logicalLines [] .complete lines
      | .comment => some (soFar ++ line.take kept) :: logicalLines [] .complete lines
      | last => logicalLines (soFar ++ line) last lines

/-! ## Values -/

/-- How a reference to a variable is written, if one is being read. -/
inductive Reference where
  | none
  | word
  | braced
deriving DecidableEq, Repr

/-- Where the reading of a value stands. -/
structure Reading where
  strong : Bool := false
  weak : Bool := false
  escaped : Bool := false
  ending : Bool := false
  done : Bool := false
  reference : Reference := .none
  name : List Char := []
  output : List Char := []

/-- A letter or digit, as the name of a variable may have. -/
private def isNameChar (c : Char) : Bool := c.isAlphanum || 0x80 ≤ c.toNat

/-- Puts the variable's value in place of a reference that ends here. -/
private def Reading.refer (r : Reading) (value : List Char → List Char) : Reading :=
  { r with output := r.output ++ value r.name, name := [], reference := .none }

/-- Reads one character of a value. -/
def Reading.step (value : List Char → List Char) (r : Reading) (c : Char) : Option Reading :=
  let put (r : Reading) : Reading := { r with output := r.output ++ [c] }
  if r.done then some r
  else if r.ending then
    if c = ' ' ∨ c = '\t' then some r else if c = '#' then some { r with done := true } else none
  else if r.escaped then
    let r := { r with escaped := false }
    if c ∈ ['\\', '\'', '"', '$', ' '] then some (put r)
    else if c = 'n' then some { r with output := r.output ++ ['\n'] }
    else none
  else if r.strong then some (if c = '\'' then { r with strong := false } else put r)
  else if r.reference ≠ .none then
    if isNameChar c then some { r with name := r.name ++ [c] }
    else if r.reference = .braced then
      some (if c = '\x7d' then r.refer value else { r with name := r.name ++ [c] })
    else if c = '\x7b' ∧ r.name.isEmpty then some { r with reference := .braced }
    else if c = '$' then some { r.refer value with reference := .word }
    else some (put (r.refer value))
  else if c = '$' then some { r with reference := .word }
  else if r.weak then
    some (if c = '"' then { r with weak := false }
      else if c = '\\' then { r with escaped := true } else put r)
  else if c = '\'' then some { r with strong := true }
  else if c = '"' then some { r with weak := true }
  else if c = '\\' then some { r with escaped := true }
  else if c = ' ' ∨ c = '\t' then some { r with ending := true }
  else some (put r)

/-- The value that a text stands for; `value` gives what variables are set to. -/
def readValue? (value : List Char → List Char) (cs : List Char) : Option (List Char) := do
  let r ← cs.foldlM (Reading.step value) {}
  if r.reference = .braced ∨ r.strong ∨ r.weak then none
  some (r.refer value).output

/-! ## Files -/

/-- The name in front of a text, and the rest. -/
def readName? (cs : List Char) : Option (List Char × List Char) :=
  let isLetter (c : Char) : Bool := ('a' ≤ c && c ≤ 'z') || ('A' ≤ c && c ≤ 'Z')
  let inName (c : Char) : Bool := isLetter c || ('0' ≤ c && c ≤ '9') || c == '_' || c == '.'
  match cs with
  | c :: _ =>
    if isLetter c || c == '_' then some (cs.takeWhile inName, cs.dropWhile inName) else none
  | [] => none

private def readEqual? (cs : List Char) : Option (List Char) :=
  match Text.trimLeft cs with
  | '=' :: cs => some (Text.trimLeft cs)
  | _ => none

/-- The name and the text of the value in a line; nothing in a blank line or a comment. -/
def readLine? (line : List Char) : Option (Option (List Char × List Char)) :=
  match Text.trimLeft line with
  | [] => some none
  | '#' :: _ => some none
  | cs => do
    let (name, rest) ← readName? cs
    match readEqual? rest with
    | some text => some (some (name, text))
    | none =>
      if name = ['e', 'x', 'p', 'o', 'r', 't'] then
        let (name, rest) ← readName? (Text.trimLeft rest)
        some (some (name, ← readEqual? rest))
      else none

private def bytes (cs : List Char) : List UInt8 := (String.ofList cs).toUTF8.toList

/-- What a variable is set to, if it is set to a text. -/
def valueOf? (env : Environment) (name : List Char) : Option (List Char) :=
  (env.lookup (bytes name)).bind fun v => (Text.ofUtf8? v).map String.toList

/-- Sets what the lines say, as far as it is not set, up to the first bad line. `known` is what
the lines before have said. -/
def loadLines (env : Environment) (known : List (List Char × List Char)) :
    List (Option (List Char)) → Environment
  | [] => env
  | none :: _ => env
  | some line :: lines =>
    match readLine? line with
    | none => env
    | some none => loadLines env known lines
    | some (some (name, text)) =>
      let value (n : List Char) : List Char := (valueOf? env n).getD ((known.lookup n).getD [])
      let given := match text with
        | [] => some []
        | '#' :: _ => some []
        | text => readValue? value text
      match given with
      | none => env
      | some v =>
        let env := if (valueOf? env name).isSome then env else env.set (bytes name) (bytes v)
        loadLines env ((name, v) :: known) lines

/-- The environment after a file is loaded. -/
def load (text : String) (env : Environment) : Environment :=
  let cs := match text.toList with
    | '\ufeff' :: cs => cs
    | cs => cs
  loadLines env [] (logicalLines [] .complete (splitLines cs))

end DatabaseResource.EnvFile
