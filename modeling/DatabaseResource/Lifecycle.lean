import DatabaseResource.Delivery
import DatabaseResource.Provisioner
import DatabaseResource.Time.Remaining

/-!
# The life of a resource

A request is answered by its type: a create asks the provisioner, update and delete have nothing to
do. The answer must be there a second before the invocation's deadline, and is delivered by the
deadline; a request that is not answered in time has failed.
-/

namespace DatabaseResource

open Activity

/-- Answers a create by what the provisioner provides. -/
def answerCreate (r : Request) (provisioner : Provisioner) :
    Activity (Except Fault Response) := do
  emit .provisioning
  match ← provisioner with
  | .error f => return .error f
  | .ok p => return .ok (.success r p.physicalResourceId p.data)

/-- The answer to a request. -/
def dispatch (r : Request) (provisioner : Provisioner) : Activity (Except Fault Response) :=
  match r.requestType with
  | .create => answerCreate r provisioner
  | .update | .delete => return .ok (.acknowledged r)
  | .other text => return .error (.unsupportedRequestType text)

/-- What is kept of the time for the delivery of the answer. -/
def deadlineMargin : Span := .ofMillis 1000

/-- The instant by which the answer must be there: now, if there is no such instant. -/
def phaseDeadline (deadline now : Instant) : Instant := (deadline.before? deadlineMargin).getD now

/-- The response to a request: the answer if it is there in time, else a failure. -/
def respond (r : Request) (deadline : Instant) (provisioner : Provisioner) :
    Activity Response := do
  let start ← now
  let phaseEnd := phaseDeadline deadline start
  match ← (dispatch r provisioner).cutAt phaseEnd with
  | some (.ok response) => return response
  | some (.error fault) =>
    log (.phaseFailed fault)
    return .failed r fault.message
  | none =>
    let fault := Fault.timeout (start.spanUntil phaseEnd)
    log (.phaseTimedOut fault)
    return .failed r fault.message

/-- How the response is sent: the sender, the web, and what chance adds to each pause. -/
structure Outlet where
  sender : Sender
  web : Http.Web
  /-- What chance adds to a pause, by what has been exchanged up to it. -/
  extra : List Http.Exchange → Nat

def Outlet.deliver (o : Outlet) (url : Url) (response : Response) : Activity (Except Fault Unit) :=
  o.sender.deliver o.web o.extra url response

/-- Delivers a composed response by a deadline. -/
def report (r : Request) (deadline : Instant) (outlet : Outlet) (response : Response) :
    Activity (Except Fault Unit) := do
  match ← (outlet.deliver r.responseUrl response).cutAt deadline with
  | none => return .error .responseDeadline
  | some (.error fault) => return .error fault
  | some (.ok ()) =>
    log (.delivered response.status response.physicalResourceId)
    return .ok ()

/-- Handles a request by a deadline: composes the response and delivers it. -/
def handle (r : Request) (deadline : Instant) (provisioner : Provisioner) (outlet : Outlet) :
    Activity (Except Fault Unit) := do
  let response ← respond r deadline provisioner
  emit (.composed response)
  report r deadline outlet response

end DatabaseResource
