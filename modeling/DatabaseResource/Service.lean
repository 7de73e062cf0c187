import DatabaseResource.Lifecycle
import DatabaseResource.Request.Reader

/-!
# The service

One process loads its configuration once and then handles invocations one after the other. An
invocation brings an event, and a deadline in milliseconds since the epoch; it is answered once,
also when its event cannot be read.
-/

namespace DatabaseResource

open Activity

/-- The world around the service. -/
structure World where
  outlet : Outlet
  server : Database.Server
  files : Files
  /-- What the wall clock shows at an instant. -/
  wall : Instant → WallTime

structure Invocation where
  id : String
  deadlineMillis : Nat
  event : String
deriving DecidableEq, Repr

/-- Why an invocation was not handled as it should be. -/
inductive InvocationError where
  | unreadable (error : Json.ReadError) (event : String)
  | fault (fault : Fault)
  /-- The deadline lies beyond what the clock can show. -/
  | noSuchInstant
deriving DecidableEq, Repr

def InvocationError.message : InvocationError → String
  | unreadable e event => e.messageIn event
  | fault f => f.message
  | noSuchInstant => "overflow when adding duration to instant"

/-- Handles a request that an invocation brings, with the invocation's context in its log. -/
def handleInvocation (id : String) (deadlineMillis : Nat) (r : Request)
    (provisioner : Provisioner) (world : World) : Activity (Except InvocationError Unit) := do
  let start ← now
  match start.after? (remaining deadlineMillis (world.wall start)) with
  | none => return .error .noSuchInstant
  | some deadline =>
    match ← within ⟨id, r.requestType.text, r.logicalResourceId⟩
        (handle r deadline provisioner world.outlet) with
    | .error f => return .error (.fault f)
    | .ok () => return .ok ()

/-- Answers an invocation. What follows a complete event document does not count. -/
def answer (provisioner : DatabaseProvisioner) (world : World) (i : Invocation) :
    Activity (Except InvocationError Unit) :=
  match Request.readDocument i.event.toList with
  | .error e => return .error (.unreadable e i.event)
  | .ok (r, _) =>
    handleInvocation i.id i.deadlineMillis r (provisioner.provision world.server world.files) world

/-- Answers invocations, one after the other. -/
def answerAll (provisioner : DatabaseProvisioner) (world : World) :
    List Invocation → Activity (List (Except InvocationError Unit))
  | [] => return []
  | i :: rest => do
    let a ← answer provisioner world i
    return a :: (← answerAll provisioner world rest)

/-- A process from its start. -/
def serve (env : Environment) (world : World) (invocations : List Invocation) :
    Activity (List (Except InvocationError Unit)) := do
  let provisioner ← DatabaseProvisioner.ofEnvironment env
  log .ready
  answerAll provisioner world invocations

end DatabaseResource
