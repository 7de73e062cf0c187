import DatabaseResource.Json.Value
import DatabaseResource.Url.Basic

/-!
# Requests

What a stack asks of the resource: to create, update or delete it. A type that is none of these
is kept by its text.
-/

namespace DatabaseResource

inductive RequestType where
  | create
  | update
  | delete
  | other (text : String)
deriving DecidableEq, Repr, Inhabited

namespace RequestType

def ofText (text : String) : RequestType :=
  if text = "Create" then create
  else if text = "Update" then update
  else if text = "Delete" then delete
  else other text

def text : RequestType → String
  | create => "Create"
  | update => "Update"
  | delete => "Delete"
  | other t => t

@[simp] theorem text_ofText (t : String) : (ofText t).text = t := by
  simp only [ofText]
  split
  · simp_all [text]
  · split
    · simp_all [text]
    · split <;> simp_all [text]

end RequestType

/-- A request, as its document says it. -/
structure Request where
  requestType : RequestType
  requestId : String
  responseUrl : Url
  stackId : String
  logicalResourceId : String
  resourceType : String
  physicalResourceId : Option String
  serviceToken : Option String
  resourceProperties : Json.Value
  oldResourceProperties : Option Json.Value
deriving Repr, Inhabited

/-- The id that the resource keeps: the one the stack knows, and the logical id where it knows
none or an empty one. -/
def Request.knownId (r : Request) : String :=
  match r.physicalResourceId with
  | some id => if id.isEmpty then r.logicalResourceId else id
  | none => r.logicalResourceId

end DatabaseResource
