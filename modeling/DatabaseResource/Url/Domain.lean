import DatabaseResource.Text.Canonical
import DatabaseResource.Text.Direction
import DatabaseResource.Text.Folding
import DatabaseResource.Text.Joining
import DatabaseResource.Text.Percent
import DatabaseResource.Url.Address
import DatabaseResource.Url.Punycode

/-!
# Domain names

The ASCII form of the domain name in a URL. Characters are folded and composed, a label with
characters outside ASCII is written in Punycode, and a label that is Punycode already must stand
for a word that is folded and composed. A word may hold joiners where letters meet that they are
for. Where one word is read from right to left, each word of the name must be read in one direction.
-/

namespace DatabaseResource.Url

/-- The ASCII characters that no domain name of a URL may hold. -/
def forbiddenInDomain (c : Char) : Bool :=
  c.toNat ≤ 0x20 || c == '#' || c == '/' || c == ':' || c == '<' || c == '>' || c == '?'
    || c == '@' || c == '[' || c == '\\' || c == ']' || c == '^' || c == '|' || c == '%'
    || c.toNat == 0x7F

/-! ## Joiners -/

/-- The character that keeps two letters apart that are joined without it. -/
def isSeparator (c : Char) : Bool := c.toNat == 0x200C

/-- A character that joins, or keeps apart, the two beside it. -/
def isJoiner (c : Char) : Bool := isSeparator c || c.toNat == 0x200D

/-- The class of the marks behind which a joiner may stand. -/
def joinableClass : Nat := 9

/-- Whether a joiner may stand between two texts; the last character of the first one comes first.
It stands behind a mark that asks for it, or keeps two letters apart that are joined across the
marks between them. -/
def joinerFits (before : List Char) (c : Char) (behind : List Char) : Bool :=
  let meets (joins : Char → Bool) (cs : List Char) : Bool :=
    (cs.dropWhile Text.isTransparent).head?.any joins
  before.head?.any fun mark => Text.markClass mark.toNat == joinableClass
    || (isSeparator c && meets Text.joinsNext before && meets Text.joinsPrevious behind)

/-- Whether each joiner behind what stands already may stand where it does. -/
def joinersFit (before : List Char) : List Char → Bool
  | [] => true
  | c :: cs => (!isJoiner c || joinerFits before c cs) && joinersFit (c :: before) cs

/-! ## Directions -/

/-- Whether a character is read from right to left. -/
def isRightToLeft (c : Char) : Bool :=
  Text.direction c == .right || Text.direction c == .arabic

/-- Whether a word is read in one direction: behind its first letter nothing is read the other way,
no sign comes last, and of two kinds of digits there is one. Marks at its end do not count. -/
def hasDirection (word : List Char) : Bool :=
  match word.map Text.direction with
  | [] => true
  | first :: rest =>
    let rest := rest.reverse.dropWhile (· == .mark)
    rest.head? != some .neutral && (match first with
      | .left => !rest.contains .right && !rest.contains .arabic
      | .right => !rest.contains .left && !(rest.contains .european && rest.contains .arabic)
      | _ => false)

/-- Whether words can stand beside each other in a name. -/
def directionsFit (words : List (List Char)) : Bool :=
  !words.any (·.any isRightToLeft) || words.all hasDirection

/-! ## Labels -/

/-- What a character of a domain name stands for, if it may be there. -/
def foldedInDomain? (c : Char) : Option (List Char) :=
  if isJoiner c then some [c] else Text.folded? c

/-- Whether a label with characters outside ASCII is a word. -/
def isWord (label : List Char) : Bool :=
  joinersFit [] label && (match label with
    | c :: _ => !Text.isMark c
    | [] => false)

/-- Whether a label stands for itself when it is folded and composed. -/
def isNormal (label : List Char) : Bool :=
  label.all (fun c => foldedInDomain? c == some [c]) && Text.compose label == label

def isAscii (label : List Char) : Bool := label.all (·.toNat < 0x80)

/-- A label of a domain name. -/
structure Label where
  /-- What it is in ASCII characters. -/
  ascii : List Char
  /-- What it stands for. -/
  word : List Char

def readLabel? (label : List Char) : Option Label :=
  match label with
  | 'x' :: 'n' :: '-' :: '-' :: code =>
    if !isAscii code then none
    else
      match Punycode.decode? code with
      | none => none
      | some word =>
        if !isAscii word && isWord word && isNormal word then some ⟨label, word⟩ else none
  | _ =>
    if isAscii label then some ⟨label, label⟩
    else if isWord label then some ⟨'x' :: 'n' :: '-' :: '-' :: Punycode.encode label, label⟩
    else none

/-- The ASCII form of a domain name that is given by its bytes. -/
def asciiDomain? (bytes : List UInt8) : Option (List Char) := do
  let text ← Text.ofUtf8? bytes
  let folded ← text.toList.mapM foldedInDomain?
  let labels ← (splitDots (Text.compose folded.flatten)).mapM readLabel?
  if !directionsFit (labels.map (·.word)) then none
  let domain := ((labels.map (·.ascii)).intersperse ['.']).flatten
  if domain.any forbiddenInDomain then none
  some domain

end DatabaseResource.Url
