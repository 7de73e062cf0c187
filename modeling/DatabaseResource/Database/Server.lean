import DatabaseResource.Config.Basic
import DatabaseResource.Database.Error
import DatabaseResource.Database.Traffic

/-!
# Database servers

What a server does with each message, which may depend on everything it has seen before. A server
that does not care what password it is sent answers the same to `redacted` traffic.
-/

namespace DatabaseResource.Database

/-- What a server reports: an SQLSTATE and a message. -/
structure Notice where
  code : Option String
  message : String
deriving DecidableEq, Repr

/-- The error that a report is to the client. -/
def Notice.toError (n : Notice) : Error := .server n.code n.message

/-- The answer to the wish for a secured connection. -/
inductive SslAnswer where
  | plain
  /-- The server agrees, but a secured connection does not come about. -/
  | broken (text : String)
  | secured
  | other (byte : Nat)
  | closed
deriving DecidableEq, Repr

/-- What becomes of a login. -/
inductive Admission where
  | welcome
  | refused (notice : Notice)
  | closed
  /-- Anything else, as the error that it is to the client. -/
  | other (error : Error)
deriving DecidableEq, Repr

/-- The answer to a startup message. -/
inductive LoginAnswer where
  /-- The password decides. -/
  | passwordWanted
  | settled (admission : Admission)
deriving DecidableEq, Repr

/-- A part of the answer to a query. -/
inductive Message where
  | row
  /-- One statement is done; the tag says what it did. -/
  | done (tag : String)
  | emptyQuery
  | notice (notice : Notice)
  | error (notice : Notice)
  /-- Anything else, as the error that it is to the client. -/
  | other (error : Error)
  /-- The server waits for the next query. -/
  | ready
deriving DecidableEq, Repr

/-- What a server does, by the traffic up to now. -/
structure Server where
  /-- How long it takes until a connection stands or is refused; `none` if for ever. -/
  approach : List Traffic → Target → Option Nat
  /-- Why no connection comes about, if none does. -/
  refusal : List Traffic → Target → Option SystemError
  ssl : List Traffic → SslAnswer
  /-- The answer to a startup message, which is the last one. -/
  login : List Traffic → LoginAnswer
  /-- The answer to a password message, which is the last one. -/
  verdict : List Traffic → Admission
  /-- The answer to a query; without `ready` the server closes the connection behind it. -/
  reply : List Traffic → List Message
  /-- Why the polite end of a connection fails, if it does. -/
  closing : List Traffic → Option SystemError
  /-- How long the end of a connection takes; `none` if for ever. -/
  parting : List Traffic → Option Nat
  /-- How long the server takes for a message, beyond the least time; `none` if for ever. -/
  latency : List Traffic → Option Nat

namespace Server

/-- A server that cannot be reached. -/
def unreachable (why : Target → SystemError) : Server where
  approach _ _ := some 0
  refusal _ t := some (why t)
  ssl _ := .plain
  login _ := .settled .welcome
  verdict _ := .welcome
  reply _ := [.ready]
  closing _ := none
  parting _ := some 0
  latency _ := some 0

/-- The server treats every password alike. -/
def IgnoresPassword (s : Server) : Prop :=
  ∀ t u : List Traffic, t.map Traffic.redacted = u.map Traffic.redacted →
    (∀ a b : Target, { a with password := "" } = { b with password := "" } →
      s.approach t a = s.approach u b ∧ s.refusal t a = s.refusal u b)
    ∧ s.ssl t = s.ssl u ∧ s.login t = s.login u ∧ s.verdict t = s.verdict u
    ∧ s.reply t = s.reply u ∧ s.closing t = s.closing u ∧ s.parting t = s.parting u
    ∧ s.latency t = s.latency u

end Server

/-- Whether a host is the directory of a local socket. -/
def isSocketDirectory (host : String) : Bool := host.startsWith "/"

end DatabaseResource.Database
