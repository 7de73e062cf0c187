import DatabaseResource.Json.Printer
import DatabaseResource.Request.Basic
import DatabaseResource.Text.Truncated

/-!
# Responses

What the resource answers to a request: that it succeeded, with an id and data, or that it failed,
with a reason. `body` is the document that is sent. The reason is cut to `maxReasonBytes`.
-/

namespace DatabaseResource

inductive Status where
  | success
  | failed
deriving DecidableEq, Repr, Inhabited

namespace Status

/-- The status as the document says it. -/
def text : Status → String
  | success => "SUCCESS"
  | failed => "FAILED"

/-- The status as a log says it. -/
def name : Status → String
  | success => "Success"
  | failed => "Failed"

end Status

structure Response where
  status : Status
  reason : Option String
  physicalResourceId : String
  stackId : String
  requestId : String
  logicalResourceId : String
  noEcho : Bool
  data : List (String × String)
deriving DecidableEq, Repr, Inhabited

namespace Response

/-- The number of bytes that a reason may have. -/
def maxReasonBytes : Nat := 1024

/-- A text, cut to what a reason may have. -/
def truncated (reason : String) : String :=
  String.ofList (Text.takeBytes maxReasonBytes reason.toList)

theorem byteCount_truncated_le (reason : String) :
    Text.byteCount (truncated reason).toList ≤ maxReasonBytes := by
  simpa [truncated] using Text.byteCount_takeBytes_le maxReasonBytes reason.toList

def success (r : Request) (physicalResourceId : String) (data : List (String × String)) :
    Response where
  status := .success
  reason := none
  physicalResourceId
  stackId := r.stackId
  requestId := r.requestId
  logicalResourceId := r.logicalResourceId
  noEcho := false
  data

/-- A failure keeps the id that the resource has; an empty one would be refused. -/
def failed (r : Request) (reason : String) : Response where
  status := .failed
  reason := some (truncated reason)
  physicalResourceId := r.knownId
  stackId := r.stackId
  requestId := r.requestId
  logicalResourceId := r.logicalResourceId
  noEcho := false
  data := []

/-- The response that only says that there was nothing to do. -/
def acknowledged (r : Request) : Response := success r r.knownId []

private def member (name value : String) : List Char :=
  Json.writeMember name (Json.writeString value)

/-- The members of the data. They are kept in a hash map, which hands them out in an arbitrary
order; the order of their names stands for whichever it is. -/
def dataMembers (data : List (String × String)) : List (List Char) :=
  (data.mergeSort fun a b => a.1 ≤ b.1).map fun m => member m.1 m.2

/-- The members of the document, each written. -/
def members (r : Response) : List (List Char) :=
  [member "Status" r.status.text]
    ++ (match r.reason with
      | some reason => [member "Reason" reason]
      | none => [])
    ++ [member "PhysicalResourceId" r.physicalResourceId, member "StackId" r.stackId,
      member "RequestId" r.requestId, member "LogicalResourceId" r.logicalResourceId,
      Json.writeMember "NoEcho" (Json.writeValue (.bool r.noEcho)),
      Json.writeMember "Data" (Json.writeObject (dataMembers r.data))]

/-- The document that is sent. -/
def body (r : Response) : String := String.ofList (Json.writeObject r.members)

/-- The number of bytes of the reason. -/
def reasonBytes? (r : Response) : Option Nat := r.reason.map fun s => Text.byteCount s.toList

end Response

end DatabaseResource
