import DatabaseResource.Decimal.Double
import DatabaseResource.Text.Quoted
import DatabaseResource.Text.Truncated

/-!
# What is wrong with a JSON text

The causes for which a JSON text is refused, the wording of each, and the place that an error
names: the line and the number of bytes in that line.
-/

namespace DatabaseResource.Json

/-- What stands where another kind of value is wanted. -/
inductive Found where
  | null
  | bool (value : Bool)
  | integer (value : Int)
  | double (value : Double)
  | text (value : String)
  | sequence
  | map
deriving DecidableEq, Repr

inductive Cause where
  | endInList
  | endInObject
  | endInString
  | endInValue
  | colonExpected
  | listCommaOrEndExpected
  | objectCommaOrEndExpected
  | wordExpected
  | valueExpected
  | invalidEscape
  | invalidNumber
  | numberOutOfRange
  | controlCharacter
  | nameNotText
  | loneSurrogate
  | unfinishedSurrogatePair
  | trailingComma
  | trailingCharacters
  | tooDeep
  | invalidType (found : Found) (expected : String)
  | invalidLength (length : Nat) (expected : String)
  | missingMember (name : String)
  | repeatedMember (name : String)
  | rejected (reason : String)
deriving DecidableEq, Repr

/-- Whether the text ends too early, breaks the rules of JSON, or holds an unsuitable value. -/
inductive Category where
  | ending
  | grammar
  | content
deriving DecidableEq, Repr

def Cause.category : Cause → Category
  | endInList | endInObject | endInString | endInValue => .ending
  | invalidType .. | invalidLength .. | missingMember _ | repeatedMember _ | rejected _ => .content
  | _ => .grammar

def Found.describe : Found → String
  | null => "null"
  | bool b => s!"boolean `{b}`"
  | integer i => s!"integer `{i}`"
  | double d => s!"floating point `{d.compact}`"
  | text s => s!"string {Text.quoted s}"
  | sequence => "sequence"
  | map => "map"

def Cause.message : Cause → String
  | endInList => "EOF while parsing a list"
  | endInObject => "EOF while parsing an object"
  | endInString => "EOF while parsing a string"
  | endInValue => "EOF while parsing a value"
  | colonExpected => "expected `:`"
  | listCommaOrEndExpected => "expected `,` or `]`"
  | objectCommaOrEndExpected => "expected `,` or `\x7d`"
  | wordExpected => "expected ident"
  | valueExpected => "expected value"
  | invalidEscape => "invalid escape"
  | invalidNumber => "invalid number"
  | numberOutOfRange => "number out of range"
  | controlCharacter => "control character (\\u0000-\\u001F) found while parsing a string"
  | nameNotText => "key must be a string"
  | loneSurrogate => "lone leading surrogate in hex escape"
  | unfinishedSurrogatePair => "unexpected end of hex escape"
  | trailingComma => "trailing comma"
  | trailingCharacters => "trailing characters"
  | tooDeep => "recursion limit exceeded"
  | invalidType found expected => s!"invalid type: {found.describe}, expected {expected}"
  | invalidLength length expected => s!"invalid length {length}, expected {expected}"
  | missingMember name => s!"missing field `{name}`"
  | repeatedMember name => s!"duplicate field `{name}`"
  | rejected reason => reason

/-- A cause, and the number of bytes of the text that lie behind the place it names. -/
structure ReadError where
  cause : Cause
  unread : Nat
deriving DecidableEq, Repr

namespace ReadError

/-- An error at the place where the rest of the text begins. -/
def here (cause : Cause) (rest : List Char) : ReadError := ⟨cause, Text.byteCount rest⟩

/-- An error at the first byte of the rest, or at the end of the text if there is none. -/
def next (cause : Cause) (rest : List Char) : ReadError := ⟨cause, Text.byteCount rest - 1⟩

/-- The line and column of a text after a number of bytes, starting from a line and column. -/
def positionAfter (line column : Nat) : Nat → List Char → Nat × Nat
  | _, [] => (line, column)
  | bytes, c :: cs =>
    if bytes = 0 then (line, column)
    else if c = '\n' then positionAfter (line + 1) 0 (bytes - 1) cs
    else positionAfter line (column + min bytes c.utf8Size) (bytes - c.utf8Size) cs

/-- The line, and the number of bytes in it, that an error of this text names. -/
def position (e : ReadError) (text : List Char) : Nat × Nat :=
  positionAfter 1 0 (Text.byteCount text - e.unread) text

/-- The wording with line and column. -/
def messageIn (e : ReadError) (text : String) : String :=
  let (line, column) := e.position text.toList
  s!"{e.cause.message} at line {line} column {column}"

end ReadError

end DatabaseResource.Json
