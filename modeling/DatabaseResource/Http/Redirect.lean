import DatabaseResource.Fault
import DatabaseResource.Http.Call
import DatabaseResource.Url.Reader
import DatabaseResource.Url.Reference

/-!
# Redirects

An answer may send a call to another place, which it names by a reference. A place that the client
cannot take leaves the answer as it is; one that it takes and cannot ask is an error.
-/

namespace DatabaseResource.Http

open Url (Reference)

/-- The length that a place may have as a text. -/
def maxUrlLength : Nat := 65534

def maxSchemeLength : Nat := 64

/-- How many colons may stand in a user, or in an address. -/
def maxColons : Nat := 8

/-- Whether an answer sends the call to another place. -/
def isRedirect (status : Nat) : Bool :=
  status == 301 || status == 302 || status == 303 || status == 307 || status == 308

/-- Whether the client takes a text for user, host and port, which a colon sets apart. `colons` have
been read since the last sign that ends a user or an address, and `hasPercent` if a percent sign
has, which only a user may hold. -/
def takesAuthority (colons : Nat) (hasPercent : Bool) : List Char → Bool
  | [] => colons ≤ 1 && !hasPercent
  | ['@'] => false
  | c :: cs =>
    if c = ':' then colons < maxColons && takesAuthority (colons + 1) hasPercent cs
    else if c = '@' ∨ c = ']' then takesAuthority 0 false cs
    else takesAuthority colons (hasPercent || c = '%') cs

/-- Whether the client takes a reference with a scheme for a place. Without a host it takes the
whole text for an authority. -/
def takes (r : Reference) : Bool :=
  r.render.length ≤ maxUrlLength && (match r.authority with
    | some authority =>
      r.scheme.all (·.length ≤ maxSchemeLength) && !authority.isEmpty
        && takesAuthority 0 false authority
    | none =>
      !r.path.contains '/' && r.query.isNone && r.fragment.isNone
        && takesAuthority 0 false r.render)

/-- The place of a call as a text. -/
def Call.place (c : Call) : List Char :=
  let authority := (c.url.authority.map (·.render)).getD ""
  s!"{c.url.scheme}://{authority}{c.target}".toList

/-- The place to which an answer sends a call, if it names one that the client takes. -/
def place? (call : Call) (status : Nat) (location : Option String) : Option Reference :=
  if !isRedirect status then none
  else do
    let named ← Reference.read? (← location).toList
    let base ← Reference.read? call.place
    let place := base.resolve named
    if takes place then some place else none

/-- Path and query of a place, as the first line of a call says them. -/
def targetOf (place : Reference) : String :=
  String.ofList ((if place.path.isEmpty then ['/'] else place.path)
    ++ (place.query.map ('?' :: ·)).getD [])

/-- The URL of a place. -/
def readPlace (place : Reference) : Except Url.Flaw Url :=
  Url.read (String.ofList { place with fragment := none }.render)

/-- Why a place cannot be asked, if it cannot. A try that began at `origin` sends no call where no
host stands. -/
def refusal? (origin : Url) (place : Reference) (url : Url) : Option Error :=
  if !url.isHttp then some (.misdirected url)
  else if place.authority.isNone then some (.sending origin)
  else none

end DatabaseResource.Http
