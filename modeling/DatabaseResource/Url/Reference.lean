import DatabaseResource.Url.Address

/-!
# References

A text that names a place, outright or relative to another one, as RFC 3986 has it. Nothing is
repaired here: what the grammar does not allow is no reference. `resolve` gives the place that a
reference names where it stands.
-/

namespace DatabaseResource.Url

/-- The parts of a reference, as they are written. -/
structure Reference where
  scheme : Option (List Char)
  authority : Option (List Char)
  path : List Char
  query : Option (List Char)
  fragment : Option (List Char)
deriving DecidableEq, Repr

namespace Reference

/-! ## What may stand in each part -/

private def isLetter (c : Char) : Bool := ('a' ≤ c && c ≤ 'z') || ('A' ≤ c && c ≤ 'Z')

private def isDigit (c : Char) : Bool := '0' ≤ c && c ≤ '9'

/-- A letter, a digit, or a sign that is no delimiter or one inside of a part. -/
def isPlain (c : Char) : Bool :=
  isLetter c || isDigit c || "-._~!$&'()*+,;=".toList.contains c

def inUser (c : Char) : Bool := isPlain c || c == ':'

def inPath (c : Char) : Bool := isPlain c || c == ':' || c == '@' || c == '/'

def inQuery (c : Char) : Bool := inPath c || c == '?'

/-- Whether a text holds allowed characters only, and bytes written with two digits behind `%`. -/
def isWritten (allowed : Char → Bool) : List Char → Bool
  | [] => true
  | '%' :: a :: b :: cs =>
    (Text.hexValue? a).isSome && (Text.hexValue? b).isSome && isWritten allowed cs
  | c :: cs => allowed c && isWritten allowed cs

def isScheme : List Char → Bool
  | [] => false
  | c :: cs => isLetter c && cs.all fun c => isLetter c || isDigit c || "+-.".toList.contains c

/-- An address of a version that is still to come. -/
def isFutureAddress : List Char → Bool
  | 'v' :: cs | 'V' :: cs =>
    let digits := cs.takeWhile fun c => (Text.hexValue? c).isSome
    match cs.drop digits.length with
    | '.' :: rest => !digits.isEmpty && !rest.isEmpty && rest.all inUser
    | _ => false
  | _ => false

def isPort : List Char → Bool
  | [] => true
  | ':' :: digits => digits.all isDigit
  | _ => false

def isHostPort : List Char → Bool
  | '[' :: cs =>
    let address := cs.takeWhile (· != ']')
    match cs.drop address.length with
    | _ :: port => ((readIpv6? address).isSome || isFutureAddress address) && isPort port
    | [] => false
  | cs => isWritten isPlain (cs.takeWhile (· != ':')) && isPort (cs.dropWhile (· != ':'))

/-- Host and port of an authority: what stands behind the user. -/
def hostPort (authority : List Char) : List Char :=
  if authority.contains '@' then authority.drop ((authority.takeWhile (· != '@')).length + 1)
  else authority

def isAuthority (cs : List Char) : Bool :=
  isHostPort (hostPort cs)
    && (!cs.contains '@' || isWritten inUser (cs.takeWhile (· != '@')))

/-- Whether each part holds what may stand in it. -/
def isValid (r : Reference) : Bool :=
  r.scheme.all isScheme && r.authority.all isAuthority && isWritten inPath r.path
    && r.query.all (isWritten inQuery) && r.fragment.all (isWritten inQuery)

/-! ## Reading and writing -/

/-- The parts of a text behind its scheme. -/
def split (scheme : Option (List Char)) (cs : List Char) : Reference :=
  let (authority, cs) := match cs with
    | '/' :: '/' :: cs =>
      let inAuthority (c : Char) : Bool := c != '/' && c != '?' && c != '#'
      (some (cs.takeWhile inAuthority), cs.dropWhile inAuthority)
    | cs => (none, cs)
  let path := cs.takeWhile fun c => c != '?' && c != '#'
  let (query, cs) := match cs.drop path.length with
    | '?' :: cs => (some (cs.takeWhile (· != '#')), cs.dropWhile (· != '#'))
    | cs => (none, cs)
  ⟨scheme, authority, path, query, cs.head?.map fun _ => cs.tail⟩

/-- The reference that a text is. A colon in its first segment ends a scheme. -/
def read? (cs : List Char) : Option Reference :=
  let front := cs.takeWhile fun c => c != ':' && c != '/' && c != '?' && c != '#'
  let r := match cs.drop front.length with
    | ':' :: rest => split (some front) rest
    | _ => split none cs
  if r.isValid then some r else none

def render (r : Reference) : List Char :=
  let part (p : Option (List Char)) (front behind : List Char) : List Char :=
    (p.map fun cs => front ++ cs ++ behind).getD []
  part r.scheme [] [':'] ++ part r.authority ['/', '/'] [] ++ r.path ++ part r.query ['?'] []
    ++ part r.fragment ['#'] []

/-! ## Resolution -/

/-- The segments of a path without those that are dots; the ones that are `done` come last first.
At the end, a segment of dots leaves an empty one. -/
def resolveSegments (done : List (List Char)) : List (List Char) → List (List Char)
  | [] => done.reverse
  | s :: rest =>
    let done := if s = ['.'] then done else if s = ['.', '.'] then done.tail else s :: done
    if rest = [] ∧ (s = ['.'] ∨ s = ['.', '.']) then ([] :: done).reverse
    else resolveSegments done rest

/-- A path without segments that are dots. -/
def resolvePath : List Char → List Char
  | '/' :: cs => (resolveSegments [] (cutAt '/' cs)).flatMap ('/' :: ·)
  | cs => cs

/-- A path in the place of the last segment of another one. -/
def mergePath (base path : List Char) : List Char :=
  (base.reverse.dropWhile (· != '/')).reverse ++ path

/-- The place that a reference names where it stands at a place with an authority. -/
def resolve (base r : Reference) : Reference :=
  match r.scheme, r.authority with
  | some _, _ => { r with path := resolvePath r.path }
  | none, some _ => { r with scheme := base.scheme, path := resolvePath r.path }
  | none, none =>
    let place := { r with scheme := base.scheme, authority := base.authority }
    match r.path with
    | [] => { place with path := base.path, query := r.query <|> base.query }
    | '/' :: _ => { place with path := resolvePath r.path }
    | _ => { place with path := resolvePath (mergePath base.path r.path) }

end Reference

end DatabaseResource.Url
