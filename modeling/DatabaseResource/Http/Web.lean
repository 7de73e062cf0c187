import DatabaseResource.Activity
import DatabaseResource.Http.Redirect

/-!
# The web, as the resource meets it

How a connection to a host goes, and what an endpoint does with a call. Both may depend on what
has been seen before, connections that did not come about among it. A try gives a call until a
deadline, and follows a number of redirects.
-/

namespace DatabaseResource.Http

/-- How a connection goes. -/
inductive Connection where
  /-- It fails at once. -/
  | unreachable
  /-- Nobody answers. -/
  | unanswered
  /-- A secured connection is asked for and does not come about. -/
  | insecure
  | established
deriving DecidableEq, Repr

/-- What an endpoint does with a call. -/
inductive Reaction where
  | answer (status : Nat) (location : Option String)
  /-- It closes the connection without an answer. -/
  | hangUp
  /-- It answers what is not HTTP. -/
  | garbage
  /-- It reads the call and does not answer. -/
  | silence
deriving DecidableEq, Repr

structure Web where
  connect : List Exchange → Url → Connection
  /-- How long it takes until it shows how a connection goes. -/
  approach : List Exchange → Url → Nat
  react : List Exchange → Call → Reaction
  /-- How long an endpoint takes for a call, beyond the least time. -/
  latency : List Exchange → Call → Nat

/-- A web without a way to any host. -/
def Web.unreachable : Web where
  connect _ _ := .unreachable
  approach _ _ := 0
  react _ _ := .silence
  latency _ _ := 0

def nanosPerSecond : Nat := Span.perSecond

/-- How long a connection is waited for. -/
def connectTimeout : Nat := 5 * nanosPerSecond

/-- How long a whole try may take. -/
def tryTimeout : Nat := 15 * nanosPerSecond

/-- How many redirects a try follows. -/
def maxRedirects : Nat := 10

/-- Whether a URL can stand in a request over HTTP. -/
def isUsable (u : Url) : Bool :=
  let inHost (c : Char) : Bool := c != '"' && c != '`' && c != '\x7b' && c != '\x7d'
  u.isHttp && u.render.utf8ByteSize ≤ maxUrlLength
    && u.authority.all fun a => a.host.render.toList.all inHost

open Activity

/-- Sleeps until an instant. -/
def sleepUntil (t : Instant) : Activity Unit := do
  let now ← Activity.now
  sleep (t.nanos - now.nanos).toNat

/-- The instant at which a connection is given up: its own time is over, or that of the try. -/
def giveUp (deadline now : Instant) : Instant :=
  ⟨min deadline.nanos (now.nanos + connectTimeout)⟩

/-- How a connection goes that shows after some time. One that shows too late is unanswered; the
deadline of the try itself is too late. -/
def Web.connectBy (web : Web) (deadline now there : Instant) (past : List Exchange) (url : Url) :
    Connection :=
  if there.nanos ≤ now.nanos + connectTimeout ∧ there.nanos < deadline.nanos then
    web.connect past url
  else .unanswered

/-- What an endpoint does with a call by a deadline; at the deadline it is too late. -/
def Web.reactBy (web : Web) (deadline ready : Instant) (past : List Exchange) (call : Call) :
    Reaction :=
  if ready.nanos < deadline.nanos then web.react past call else .silence

/-- Gives a call to an endpoint. The answer is a status and a location; `none` if there is none by
the deadline. -/
def ask (web : Web) (deadline : Instant) (call : Call) :
    Activity (Option (Nat × Option String)) := do
  emit (.exchange (.dialled call.url))
  let m ← moment
  let past := exchanges m.events
  let there := m.now.advance (web.approach past call.url)
  match web.connectBy deadline m.now there past call.url with
  | .unanswered =>
    sleepUntil (giveUp deadline m.now)
    return none
  | .unreachable =>
    sleepUntil there
    return none
  | .insecure =>
    sleepUntil there
    emit (.exchange .handshake)
    sleep 1
    return none
  | .established =>
    sleepUntil there
    emit (.exchange (.call call))
    let ready := there.advance (web.latency past call + 1)
    match web.reactBy deadline ready past call with
    | .silence =>
      sleepUntil deadline
      return none
    | .hangUp | .garbage =>
      sleepUntil ready
      return none
    | .answer status location =>
      sleepUntil ready
      return some (status, location)

/-- What comes of the answer to a call in a try that began at `origin`: its status, an error, or
what comes of the call that it asks for. `follow` makes that call, if one more redirect is
followed. -/
def settle (origin : Url) (call : Call) (follow : Option (Call → Activity (Except Error Nat))) :
    Option (Nat × Option String) → Activity (Except Error Nat)
  | none => return .error (.sending origin)
  | some (status, location) =>
    match place? call status location with
    | none => return .ok status
    | some place =>
      match readPlace place, follow with
      | .error _, _ => return .error (.misdirected origin)
      | .ok _, none => return .error (.redirect call.url)
      | .ok url, some follow =>
        match refusal? origin place url with
        | some error => return .error error
        | none => follow (call.redirected status url (targetOf place))

/-- What comes of a call by a deadline: the last status, or an error on the way. -/
def attempt (web : Web) (deadline : Instant) (origin : Url) :
    (redirects : Nat) → Call → Activity (Except Error Nat)
  | 0, call => do settle origin call none (← ask web deadline call)
  | redirects + 1, call => do
    settle origin call (some (attempt web deadline origin redirects)) (← ask web deadline call)

end DatabaseResource.Http
