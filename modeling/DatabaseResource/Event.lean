import DatabaseResource.Database.Traffic
import DatabaseResource.Http.Call
import DatabaseResource.Log.Entry

/-!
# Events

Everything that can be seen of the resource while it works: what it logs, what an endpoint and the
database server get from it, when the provisioner is asked, and the document that each request is
answered with.
-/

namespace DatabaseResource

inductive Event where
  | log (context : Option Log.Context) (entry : Log.Entry)
  | exchange (e : Http.Exchange)
  | traffic (t : Database.Traffic)
  | provisioning
  | composed (response : Response)
deriving DecidableEq, Repr

namespace Event

def log? : Event → Option (Option Log.Context × Log.Entry)
  | log context entry => some (context, entry)
  | _ => none

def exchange? : Event → Option Http.Exchange
  | exchange e => some e
  | _ => none

def traffic? : Event → Option Database.Traffic
  | traffic t => some t
  | _ => none

def composed? : Event → Option Response
  | composed response => some response
  | _ => none

/-- A log entry that has no context yet gets one. -/
def within (context : Log.Context) : Event → Event
  | log none entry => log (some context) entry
  | e => e

end Event

/-- What the network has seen. -/
def exchanges (events : List Event) : List Http.Exchange := events.filterMap Event.exchange?

/-- What endpoints have got. -/
def requests (events : List Event) : List Http.Exchange :=
  (exchanges events).filter Http.Exchange.isRequest

/-- The calls that endpoints have got. -/
def calls (events : List Event) : List Http.Call :=
  (exchanges events).filterMap Http.Exchange.call?

/-- What the database server has seen. -/
def traffic (events : List Event) : List Database.Traffic := events.filterMap Event.traffic?

/-- How often the provisioner has been asked. -/
def provisionings (events : List Event) : Nat := events.count .provisioning

/-- The responses that have been composed. -/
def compositions (events : List Event) : List Response := events.filterMap Event.composed?

/-- What has been logged. -/
def logged (events : List Event) : List (Option Log.Context × Log.Entry) :=
  events.filterMap Event.log?

end DatabaseResource
