import DatabaseResource.Url.Address

/-!
# Absolute URLs

A URL in its normal form: scheme and host in lower case, user name, password, path, query and
fragment percent-encoded, no port that the scheme implies. `render` puts the parts together;
`withoutUser` leaves out who asks.
-/

namespace DatabaseResource

namespace Url

inductive Host where
  | domain (name : String)
  | ipv4 (address : Nat)
  | ipv6 (pieces : List Nat)
deriving DecidableEq, Repr, Inhabited

def Host.render : Host → String
  | domain name => name
  | ipv4 address => renderIpv4 address
  | ipv6 pieces => s!"[{renderIpv6 pieces}]"

/-- What stands behind the two slashes. -/
structure Authority where
  username : String
  password : String
  host : Host
  port : Option Nat
deriving DecidableEq, Repr, Inhabited

def Authority.render (a : Authority) : String :=
  let secret := if a.password.isEmpty then "" else s!":{a.password}"
  let user := if a.username.isEmpty && a.password.isEmpty then "" else s!"{a.username}{secret}@"
  let port := match a.port with
    | none => ""
    | some p => s!":{p}"
  s!"{user}{a.host.render}{port}"

/-- Why a text is no absolute URL. -/
inductive Flaw where
  | emptyHost
  | invalidDomain
  | invalidPort
  | invalidIpv4
  | invalidIpv6
  | invalidOpaqueHost
  | relativeWithoutBase
deriving DecidableEq, Repr

def Flaw.message : Flaw → String
  | emptyHost => "empty host"
  | invalidDomain => "invalid international domain name"
  | invalidPort => "invalid port number"
  | invalidIpv4 => "invalid IPv4 address"
  | invalidIpv6 => "invalid IPv6 address"
  | invalidOpaqueHost => "invalid domain character"
  | relativeWithoutBase => "relative URL without a base"

end Url

/-- An absolute URL. A path without a slash in front belongs to a URL like `mailto:a@b`. -/
structure Url where
  scheme : String
  authority : Option Url.Authority
  path : String
  query : Option String
  fragment : Option String
deriving DecidableEq, Repr, Inhabited

namespace Url

/-- A path that begins with two slashes gets `/.` in front where no host comes before it. -/
def render (u : Url) : String :=
  let place := match u.authority with
    | some a => s!"//{a.render}"
    | none => if u.path.startsWith "//" then "/." else ""
  let query := match u.query with
    | some q => s!"?{q}"
    | none => ""
  let fragment := match u.fragment with
    | some f => s!"#{f}"
    | none => ""
  s!"{u.scheme}:{place}{u.path}{query}{fragment}"

/-- The URL without user name and password. -/
def withoutUser (u : Url) : Url :=
  { u with authority := u.authority.map fun a => { a with username := "", password := "" } }

/-- Path and query. -/
def target (u : Url) : String := u.path ++ (u.query.map ("?" ++ ·)).getD ""

/-- Whether the URL is reached over HTTP, plain or secured. -/
def isHttp (u : Url) : Bool := u.scheme == "http" || u.scheme == "https"

/-- The port that a scheme implies. -/
def defaultPort? (scheme : String) : Option Nat :=
  if scheme = "http" ∨ scheme = "ws" then some 80
  else if scheme = "https" ∨ scheme = "wss" then some 443
  else if scheme = "ftp" then some 21
  else none

end Url

end DatabaseResource
