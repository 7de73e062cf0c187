import DatabaseResource.Json.Reader
import DatabaseResource.Request.Basic
import DatabaseResource.Url.Reader

/-!
# Reading requests

A request document is an object with named members or a list of the same values in a fixed order.
Both go through `Draft.readField`: the object names the field of each value, the list counts them.
Members that a request does not know are passed over.
-/

namespace DatabaseResource.Request

open Json (ReadError Found skipSpace readString readWord readNumber readValue)

/-- What a request document says about a request. -/
inductive Field where
  | requestType
  | requestId
  | responseUrl
  | stackId
  | logicalResourceId
  | resourceType
  | physicalResourceId
  | serviceToken
  | resourceProperties
  | oldResourceProperties
deriving DecidableEq, Repr

namespace Field

/-- All fields, in the order of the list form. -/
def all : List Field :=
  [requestType, requestId, responseUrl, stackId, logicalResourceId, resourceType,
    physicalResourceId, serviceToken, resourceProperties, oldResourceProperties]

theorem mem_all (f : Field) : f ∈ all := by cases f <;> decide

def name : Field → String
  | requestType => "RequestType"
  | requestId => "RequestId"
  | responseUrl => "ResponseURL"
  | stackId => "StackId"
  | logicalResourceId => "LogicalResourceId"
  | resourceType => "ResourceType"
  | physicalResourceId => "PhysicalResourceId"
  | serviceToken => "ServiceToken"
  | resourceProperties => "ResourceProperties"
  | oldResourceProperties => "OldResourceProperties"

theorem name_injective {f g : Field} (h : f.name = g.name) : f = g := by
  cases f <;> cases g <;> first | rfl | (exact absurd h (by decide))

/-- The field that a member name stands for. -/
def ofName? (name : String) : Option Field := all.find? (·.name == name)

/-- Whether a document without the field is refused. -/
def required : Field → Bool
  | requestType | requestId | responseUrl | stackId | logicalResourceId => true
  | _ => false

end Field

/-! ## Values of one kind -/

/-- The description of the value that begins here, after the parts that show its kind are read. -/
def readFound (cs : List Char) : Except ReadError Found :=
  match skipSpace cs with
  | [] => .error (.here .endInValue [])
  | 'n' :: cs => do
    let _ ← readWord ['u', 'l', 'l'] cs
    .ok .null
  | 't' :: cs => do
    let _ ← readWord ['r', 'u', 'e'] cs
    .ok (.bool true)
  | 'f' :: cs => do
    let _ ← readWord ['a', 'l', 's', 'e'] cs
    .ok (.bool false)
  | '-' :: cs => do .ok (ofNumber (← readNumber true cs).1)
  | '"' :: cs => do .ok (.text (← readString cs).1)
  | '[' :: _ => .ok .sequence
  | '{' :: _ => .ok .map
  | c :: cs =>
    if Json.isDigit c then do .ok (ofNumber (← readNumber false (c :: cs)).1)
    else .error (.next .valueExpected (c :: cs))
where
  /-- A number that stands where something else is wanted. -/
  ofNumber : Json.Number → Found
    | .integer i => .integer i
    | .double d => .double d

/-- Refuses the value that begins here. -/
def refuse {α : Type} (expected : String) (cs : List Char) : Except ReadError α := do
  let found ← readFound cs
  .error (.here (.invalidType found expected) cs)

/-- A string; `expected` says what it is for. -/
def readText (expected : String) (cs : List Char) : Except ReadError (String × List Char) :=
  match skipSpace cs with
  | '"' :: cs => readString cs
  | cs => refuse expected cs

/-- A string that must be an absolute URL. -/
def readUrl (cs : List Char) : Except ReadError (Url × List Char) := do
  let (text, rest) ← readText "a string representing an URL" cs
  match Url.read text with
  | .ok url => .ok (url, rest)
  | .error flaw =>
    .error (.here (.rejected s!"{flaw.message}: {Text.quoted text}") rest)

/-- A value for which `null` stands for none. -/
def readOptional {α : Type} (item : List Char → Except ReadError (α × List Char))
    (cs : List Char) : Except ReadError (Option α × List Char) :=
  match skipSpace cs with
  | 'n' :: cs => do .ok (none, ← readWord ['u', 'l', 'l'] cs)
  | cs => do
    let (a, cs) ← item cs
    .ok (some a, cs)

/-! ## Drafts -/

/-- What a document has said so far. -/
structure Draft where
  requestType : Option RequestType := none
  requestId : Option String := none
  responseUrl : Option Url := none
  stackId : Option String := none
  logicalResourceId : Option String := none
  resourceType : Option String := none
  physicalResourceId : Option (Option String) := none
  serviceToken : Option (Option String) := none
  resourceProperties : Option Json.Value := none
  oldResourceProperties : Option (Option Json.Value) := none

namespace Draft

/-- Whether the document has said the field already. -/
def has (d : Draft) : Field → Bool
  | .requestType => d.requestType.isSome
  | .requestId => d.requestId.isSome
  | .responseUrl => d.responseUrl.isSome
  | .stackId => d.stackId.isSome
  | .logicalResourceId => d.logicalResourceId.isSome
  | .resourceType => d.resourceType.isSome
  | .physicalResourceId => d.physicalResourceId.isSome
  | .serviceToken => d.serviceToken.isSome
  | .resourceProperties => d.resourceProperties.isSome
  | .oldResourceProperties => d.oldResourceProperties.isSome

/-- The number of levels that a value inside the document may have. -/
def levels : Nat := Json.maxLevels - 1

/-- Reads the value of a field. -/
def readField (d : Draft) (f : Field) (cs : List Char) :
    Except ReadError (Draft × List Char) :=
  match f with
  | .requestType => do
    let (s, cs) ← readText "a string" cs
    .ok ({ d with requestType := some (.ofText s) }, cs)
  | .requestId => do
    let (s, cs) ← readText "a string" cs
    .ok ({ d with requestId := some s }, cs)
  | .responseUrl => do
    let (u, cs) ← readUrl cs
    .ok ({ d with responseUrl := some u }, cs)
  | .stackId => do
    let (s, cs) ← readText "a string" cs
    .ok ({ d with stackId := some s }, cs)
  | .logicalResourceId => do
    let (s, cs) ← readText "a string" cs
    .ok ({ d with logicalResourceId := some s }, cs)
  | .resourceType => do
    let (s, cs) ← readText "a string" cs
    .ok ({ d with resourceType := some s }, cs)
  | .physicalResourceId => do
    let (s, cs) ← readOptional (readText "a string") cs
    .ok ({ d with physicalResourceId := some s }, cs)
  | .serviceToken => do
    let (s, cs) ← readOptional (readText "a string") cs
    .ok ({ d with serviceToken := some s }, cs)
  | .resourceProperties => do
    let (v, cs) ← readValue levels cs
    .ok ({ d with resourceProperties := some v }, cs)
  | .oldResourceProperties => do
    let (v, cs) ← readOptional (readValue levels) cs
    .ok ({ d with oldResourceProperties := some v }, cs)

/-- The request that a draft with all required fields says. -/
def toRequest? (d : Draft) : Option Request := do
  some {
    requestType := ← d.requestType
    requestId := ← d.requestId
    responseUrl := ← d.responseUrl
    stackId := ← d.stackId
    logicalResourceId := ← d.logicalResourceId
    resourceType := d.resourceType.getD ""
    physicalResourceId := d.physicalResourceId.getD none
    serviceToken := d.serviceToken.getD none
    resourceProperties := d.resourceProperties.getD .null
    oldResourceProperties := d.oldResourceProperties.getD none }

/-- The first required field that a draft lacks. -/
def missing? (d : Draft) : Option Field := Field.all.find? fun f => f.required && !d.has f

/-- A draft lacks a required field or says a request. -/
theorem toRequest?_isSome_iff (d : Draft) : d.toRequest?.isSome ↔ d.missing? = none := by
  rcases d with ⟨a, b, c, e, f, _, _, _, _, _⟩
  cases a <;> cases b <;> cases c <;> cases e <;> cases f <;>
    simp [toRequest?, missing?, Field.all, Field.required, has]

end Draft

/-! ## Documents -/

/-- Takes up a member of the object form. -/
def readMember (d : Draft) (name : String) (cs : List Char) :
    Except ReadError (Draft × List Char) :=
  match Field.ofName? name with
  | none => do
    let cs ← Json.readColon cs
    .ok (d, ← Json.skipValue cs)
  | some f =>
    if d.has f then .error (.here (.repeatedMember f.name) cs)
    else do
      let cs ← Json.readColon cs
      d.readField f cs

/-- What a request document is called in errors. -/
def documentName : String := "struct CustomResourceRequest"

/-- Takes up the values of the list form, for the fields that are left. -/
def readPositions (d : Draft) (count : Nat) : List Field → List Char →
    Except ReadError (Draft × List Char)
  | [], cs => .ok (d, cs)
  | f :: fields, cs =>
    let ended (cs : List Char) : Except ReadError (Draft × List Char) :=
      if f.required then
        .error (.here (.invalidLength count s!"{documentName} with 10 elements") cs)
      else .ok (d, cs)
    match skipSpace cs with
    | [] => .error (.here .endInList [])
    | ']' :: cs => ended (']' :: cs)
    | c :: cs =>
      if count = 0 then do
        let (d, cs) ← d.readField f (c :: cs)
        readPositions d (count + 1) fields cs
      else if c = ',' then
        match skipSpace cs with
        | [] => .error (.here .endInValue [])
        | ']' :: cs => .error (.next .trailingComma (']' :: cs))
        | cs => do
          let (d, cs) ← d.readField f cs
          readPositions d (count + 1) fields cs
      else .error (.next .listCommaOrEndExpected (c :: cs))

/-- Refuses anything but the closing bracket behind the last value of the list form. -/
def readListEnd (cs : List Char) : Except ReadError (List Char) :=
  match skipSpace cs with
  | [] => .error (.here .endInList [])
  | ']' :: cs => .ok cs
  | ',' :: cs =>
    match skipSpace cs with
    | ']' :: cs => .error (.next .trailingComma (']' :: cs))
    | cs => .error (.next .trailingCharacters cs)
  | cs => .error (.next .trailingCharacters cs)

/-- A request document and the rest of the text. -/
def readDocument (cs : List Char) : Except ReadError (Request × List Char) :=
  match skipSpace cs with
  | [] => .error (.here .endInValue [])
  | '[' :: cs => do
    let (d, cs) ← readPositions {} 0 Field.all cs
    let cs ← readListEnd cs
    finish d cs
  | '{' :: cs => do
    let (d, cs) ← Json.readObject readMember {} cs
    finish d cs
  | cs => refuse documentName cs
where
  /-- The request that the draft of a whole document says. -/
  finish (d : Draft) (cs : List Char) : Except ReadError (Request × List Char) :=
    match d.toRequest? with
    | some r => .ok (r, cs)
    | none => .error (.here (.missingMember ((d.missing?.map Field.name).getD "")) cs)

/-- The request that a whole text is. -/
def read (text : String) : Except ReadError Request := do
  let (r, rest) ← readDocument text.toList
  Json.readEnd rest
  .ok r

end DatabaseResource.Request
