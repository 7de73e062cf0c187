import DatabaseResource.Url.Basic
import DatabaseResource.Url.Domain

/-!
# Reading URLs

`read` takes a text for an absolute URL and gives its normal form. White space and control
characters at both ends do not count, tabs and line ends nowhere. The path is resolved while it is
read: a segment of one dot is left out, and one of two dots takes the segment before it away.
-/

namespace DatabaseResource.Url

/-! ## What is written byte by byte in each part -/

def isControl (c : Char) : Bool := c.toNat < 0x20 || c.toNat == 0x7F

def inFragmentSet (c : Char) : Bool :=
  isControl c || c == ' ' || c == '"' || c == '<' || c == '>' || c == '`'

def inPathSet (c : Char) : Bool :=
  inFragmentSet c || c == '#' || c == '?' || c == '{' || c == '}'

def inUserSet (c : Char) : Bool :=
  inPathSet c || c == '/' || c == ':' || c == ';' || c == '=' || c == '@' || c == '['
    || c == '\\' || c == ']' || c == '^' || c == '|'

def inQuerySet (c : Char) : Bool :=
  isControl c || c == ' ' || c == '"' || c == '#' || c == '<' || c == '>'

/-! ## Schemes -/

/-- A scheme that everybody knows has a host, and backslashes count as slashes behind it. -/
inductive Kind where
  | file
  | special
  | other
deriving DecidableEq, Repr

def Kind.ofScheme (scheme : List Char) : Kind :=
  if scheme = ['f', 'i', 'l', 'e'] then .file
  else if scheme ∈ [['h', 't', 't', 'p'], ['h', 't', 't', 'p', 's'], ['w', 's'], ['w', 's', 's'],
      ['f', 't', 'p']] then .special
  else .other

def Kind.isSpecial (k : Kind) : Bool := k != .other

private def isLetter (c : Char) : Bool := ('a' ≤ c && c ≤ 'z') || ('A' ≤ c && c ≤ 'Z')

/-- The scheme in front of a text, in lower case, and the text behind its colon. -/
def takeScheme? (cs : List Char) : Option (List Char × List Char) :=
  let inScheme (c : Char) : Bool :=
    isLetter c || ('0' ≤ c && c ≤ '9') || c == '+' || c == '-' || c == '.'
  match cs, cs.dropWhile inScheme with
  | c :: _, ':' :: rest =>
    if isLetter c then some ((cs.takeWhile inScheme).map Char.toLower, rest) else none
  | _, _ => none

/-! ## User name, host and port -/

/-- Whether a slash, or what counts as one, stands here. -/
def isSlash (kind : Kind) (c : Char) : Bool := c == '/' || (kind.isSpecial && c == '\\')

/-- Whether the authority ends here. -/
def endsAuthority (kind : Kind) (c : Char) : Bool := isSlash kind c || c == '?' || c == '#'

/-- User name and password, encoded, and the text behind the last `@` of the authority. -/
def readUser (kind : Kind) (cs : List Char) :
    Except Flaw (List Char × List Char × List Char) :=
  let authority := cs.takeWhile (!endsAuthority kind ·)
  if !authority.contains '@' then .ok ([], [], cs)
  else
    let host := (authority.reverse.takeWhile (· != '@')).reverse
    let user := authority.take (authority.length - host.length - 1)
    let rest := cs.drop (user.length + 1)
    let hostMissing := match rest with
      | c :: _ => user.isEmpty && endsAuthority kind c
      | [] => false
    if hostMissing then .error .emptyHost
    else
      let name := user.takeWhile (· != ':')
      let password := user.drop (name.length + 1)
      .ok (Text.percentEncode inUserSet name, Text.percentEncode inUserSet password, rest)

/-- The text of the host, which may hold colons between brackets, and the rest. -/
def splitHost (kind : Kind) (inBrackets : Bool) : List Char → List Char × List Char
  | [] => ([], [])
  | c :: cs =>
    if endsAuthority kind c || (c == ':' && !inBrackets) then ([], c :: cs)
    else
      let (host, rest) :=
        splitHost kind (if c == '[' then true else if c == ']' then false else inBrackets) cs
      (c :: host, rest)

private def readBracketed? (cs : List Char) : Option Host :=
  match cs.reverse with
  | ']' :: back => (readIpv6? back.reverse).map .ipv6
  | _ => none

/-- The host of a URL with a special scheme. -/
def readHost (cs : List Char) : Except Flaw Host :=
  match cs with
  | '[' :: cs =>
    match readBracketed? cs with
    | some host => .ok host
    | none => .error .invalidIpv6
  | cs =>
    match asciiDomain? (Text.percentDecode cs) with
    | none => .error .invalidDomain
    | some domain =>
      if domain.isEmpty then .error .emptyHost
      else if endsInNumber domain then
        match readIpv4? domain with
        | some address => .ok (.ipv4 address)
        | none => .error .invalidIpv4
      else .ok (.domain (String.ofList domain))

/-- The host of a URL with any other scheme, which is kept as it stands. -/
def readOpaqueHost (cs : List Char) : Except Flaw Host :=
  match cs with
  | '[' :: cs =>
    match readBracketed? cs with
    | some host => .ok host
    | none => .error .invalidIpv6
  | cs =>
    if cs.any fun c => forbiddenInDomain c && (!isControl c || c == '\x00') && c != '%' then
      .error .invalidOpaqueHost
    else .ok (.domain (String.ofList (Text.percentEncode isControl cs)))

/-- The port behind a colon, if it is not the one that the scheme implies, and the rest. -/
def readPort (scheme : String) (cs : List Char) : Except Flaw (Option Nat × List Char) :=
  let isDigit (c : Char) : Bool := '0' ≤ c && c ≤ '9'
  let digits := cs.takeWhile isDigit
  let rest := cs.dropWhile isDigit
  let port := (numberInBase? 10 digits).getD 0
  let ended : Bool := match rest with
    | [] => true
    | c :: _ => c == '/' || c == '\\' || c == '?' || c == '#'
  if port > 65535 || !ended then .error .invalidPort
  else .ok (if digits.isEmpty ∨ some port = defaultPort? scheme then none else some port, rest)

/-- The authority behind two slashes, and the rest. -/
def readAuthority (scheme : String) (kind : Kind) (cs : List Char) :
    Except Flaw (Authority × List Char) := do
  let (name, password, cs) ← readUser kind cs
  let (text, cs) := splitHost kind false cs
  if kind.isSpecial && text.isEmpty then .error .emptyHost
  let host ← if kind.isSpecial then readHost text else readOpaqueHost text
  let noHost := host == .domain ""
  let (port, cs) ← match cs with
    | ':' :: cs => if noHost then .error .emptyHost else readPort scheme cs
    | cs => .ok (none, cs)
  if noHost && !(name.isEmpty && password.isEmpty) then .error .emptyHost
  .ok (⟨String.ofList name, String.ofList password, host, port⟩, cs)

/-! ## Paths -/

def isSingleDot (segment : List Char) : Bool :=
  let s := segment.map Char.toLower
  s == ['.'] || s == ['%', '2', 'e']

def isDoubleDot (segment : List Char) : Bool :=
  let s := segment.map Char.toLower
  s == ['.', '.'] || s == ['.', '%', '2', 'e'] || s == ['%', '2', 'e', '.']
    || s == ['%', '2', 'e', '%', '2', 'e']

/-- A letter and a colon or bar, as a drive is named in a file URL. -/
def isDrive (segment : List Char) : Bool :=
  match segment with
  | [c, d] => isLetter c && (d == ':' || d == '|')
  | _ => false

def isNormalDrive (segment : List Char) : Bool :=
  match segment with
  | [c, d] => isLetter c && d == ':'
  | _ => false

/-- Whether a text begins with the name of a drive as its first segment. -/
def startsWithDrive (cs : List Char) : Bool :=
  match cs with
  | c :: d :: rest =>
    isDrive [c, d] && (match rest with
      | [] => true
      | e :: _ => e == '/' || e == '\\' || e == '?' || e == '#')
  | _ => false

/-- Takes the last segment of a path away, up to the slash before it; a drive stays. -/
def popSegment (kind : Kind) (path : List Char) : List Char :=
  let segment := (path.reverse.takeWhile (· != '/')).reverse
  if kind == .file && isNormalDrive segment then path
  else path.take (path.length - segment.length)

/-- Whether the slash at the end of a path separates a segment that may be taken away. -/
def lastSlashRemovable (path : List Char) : Bool :=
  let before := path.dropLast
  if !before.contains '/' then false
  else
    let segment := (before.reverse.takeWhile (· != '/')).reverse
    !startsWithDrive (segment ++ ['/'])

private def endsWithSlash (path : List Char) : Bool := path.getLast? == some '/'

/-- A path with one more segment, which a slash follows or not. -/
def addSegment (kind : Kind) (path segment : List Char) (slash : Bool) : List Char :=
  if isDoubleDot segment then
    let path := if endsWithSlash path && lastSlashRemovable path then path.dropLast else path
    let path :=
      if kind == .file && isNormalDrive path then path else popSegment kind path
    if slash && !endsWithSlash path then path ++ ['/'] else path
  else if isSingleDot segment then
    if endsWithSlash path then path else path ++ ['/']
  else
    let segment := match segment with
      | [c, d] => if kind == .file && isDrive [c, d] then [c, ':'] else segment
      | _ => segment
    path ++ segment ++ (if slash then ['/'] else [])

/-- Reads a path up to the query or the fragment: `path` is what stands already, `segment` what
has been read since the last slash, encoded. -/
def readSegments (kind : Kind) (path segment : List Char) : List Char → List Char × List Char
  | [] => (addSegment kind path segment false, [])
  | c :: cs =>
    if isSlash kind c then readSegments kind (addSegment kind path segment true) [] cs
    else if c == '?' || c == '#' then (addSegment kind path segment false, c :: cs)
    else
      let written := Text.percentEncodeChar inPathSet c
      if kind == .file && !path.isEmpty && isNormalDrive ((path ++ segment).drop 1) then
        readSegments kind (path ++ segment ++ ['/']) written cs
      else readSegments kind path (segment ++ written) cs

/-- Reads a path behind what stands already. The path of a file has one slash in front. -/
def readPath (kind : Kind) (path cs : List Char) : List Char × List Char :=
  let (path, rest) := readSegments kind path [] cs
  if kind == .file then ('/' :: path.dropWhile (· == '/'), rest) else (path, rest)

/-- The path behind an authority. -/
def readPathStart (kind : Kind) (cs : List Char) : List Char × List Char :=
  if kind.isSpecial then
    match cs with
    | c :: rest => readPath kind ['/'] (if isSlash kind c then rest else cs)
    | [] => readPath kind ['/'] []
  else
    match cs with
    | [] => ([], [])
    | c :: _ =>
      if c == '?' || c == '#' then ([], cs)
      else if c == '/' then readPath kind [] cs
      else readPath kind ['/'] cs

/-- A path without a slash in front, up to the query or the fragment. -/
def readRootlessPath (cs : List Char) : List Char × List Char :=
  let inPath (c : Char) : Bool := c != '?' && c != '#'
  (Text.percentEncode isControl (cs.takeWhile inPath), cs.dropWhile inPath)

/-! ## Query and fragment -/

private def readFragment? : List Char → Option String
  | '#' :: cs => some (String.ofList (Text.percentEncode inFragmentSet cs))
  | _ => none

private def readQuery? (kind : Kind) (cs : List Char) : Option String × List Char :=
  match cs with
  | '?' :: cs =>
    let inSet (c : Char) : Bool := inQuerySet c || (kind.isSpecial && c == '\'')
    let query := cs.takeWhile (· != '#')
    (some (String.ofList (Text.percentEncode inSet query)), cs.drop query.length)
  | cs => (none, cs)

/-- A URL whose query and fragment stand here. -/
def finish (scheme : String) (kind : Kind) (authority : Option Authority)
    (path rest : List Char) : Url :=
  let (query, rest) := readQuery? kind rest
  ⟨scheme, authority, String.ofList path, query, readFragment? rest⟩

/-! ## Whole URLs -/

/-- A URL whose authority stands here. -/
def readFromAuthority (scheme : String) (kind : Kind) (cs : List Char) : Except Flaw Url := do
  let (authority, cs) ← readAuthority scheme kind cs
  let (path, cs) := readPathStart kind cs
  .ok (finish scheme kind (some authority) path cs)

private def noUser (host : Host) : Authority := ⟨"", "", host, none⟩

/-- The host of a file URL and the rest; a drive is no host. -/
def readFileHost (cs : List Char) : Except Flaw (Host × List Char) :=
  let inHost (c : Char) : Bool := !(c == '/' || c == '\\' || c == '?' || c == '#')
  let text := cs.takeWhile inHost
  if isDrive text then .ok (.domain "", cs)
  else if text.isEmpty then .ok (.domain "", cs)
  else
    match readHost text with
    | .error e => .error e
    | .ok host =>
      .ok (if host = .domain "localhost" then .domain "" else host, cs.dropWhile inHost)

/-- A file URL behind its scheme. -/
def readFile (cs : List Char) : Except Flaw Url :=
  let slash (c : Char) : Bool := c == '/' || c == '\\'
  let withoutHost : Url :=
    let (path, rest) := readPath .file (if cs.head?.any slash then [] else ['/']) cs
    finish "file" .file (some (noUser (.domain ""))) path rest
  match cs with
  | c :: d :: rest =>
    if slash c && slash d then do
      let (host, rest) ← readFileHost rest
      let (path, rest) := readPathStart .file rest
      let first := path.drop 1 |>.takeWhile (· != '/')
      .ok (finish "file" .file (some (noUser (if isNormalDrive first then .domain "" else host)))
        path rest)
    else .ok withoutHost
  | _ => .ok withoutHost

/-- A URL behind its scheme. -/
def readWithScheme (scheme cs : List Char) : Except Flaw Url :=
  let kind := Kind.ofScheme scheme
  let name := String.ofList scheme
  match kind with
  | .file => readFile cs
  | .special => readFromAuthority name kind (cs.dropWhile (isSlash .special))
  | .other =>
    match cs with
    | '/' :: '/' :: cs => readFromAuthority name kind cs
    | '/' :: cs =>
      let (path, cs) := readPath kind ['/'] cs
      .ok (finish name kind none path cs)
    | cs =>
      let (path, cs) := readRootlessPath cs
      .ok (finish name kind none path cs)

/-- The text without control characters and spaces at its ends, and without tabs and line ends. -/
def stripped (text : String) : List Char :=
  let outer (c : Char) : Bool := c.toNat ≤ 0x20
  let cs := ((text.toList.dropWhile outer).reverse.dropWhile outer).reverse
  cs.filter fun c => c != '\t' && c != '\n' && c != '\r'

/-- The absolute URL that a text is. -/
def read (text : String) : Except Flaw Url :=
  match takeScheme? (stripped text) with
  | some (scheme, rest) => readWithScheme scheme rest
  | none => .error .relativeWithoutBase

end DatabaseResource.Url
