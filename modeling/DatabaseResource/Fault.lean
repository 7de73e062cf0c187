import DatabaseResource.Config.Load
import DatabaseResource.Database.Error
import DatabaseResource.Http.Status
import DatabaseResource.Time.Span
import DatabaseResource.Url.Basic

/-!
# What can go wrong

Every cause for which the resource reports a failure, with its wording, the texts of the errors
behind it, and whether it is worth trying again. A failed `CREATE DATABASE` is told apart where
the server says that the database is there already.
-/

namespace DatabaseResource

/-- Why a request got no usable answer over HTTP, with the URL that is to blame. -/
inductive Http.Error where
  | sending (url : Url)
  | unusable (url : Url)
  /-- Answers send the call on and on. -/
  | redirect (url : Url)
  /-- An answer sends the call to a place that cannot be asked. -/
  | misdirected (url : Url)
deriving DecidableEq, Repr

def Http.Error.message : Http.Error → String
  | sending u => s!"error sending request for url ({u.render})"
  | unusable u | misdirected u => s!"builder error for url ({u.render})"
  | redirect u => s!"error following redirect for url ({u.render})"

inductive Fault where
  | config (error : Settings.Error)
  | invalidConfig (error : Config.RuleError)
  | unconfigured (reason : String)
  | database (error : Database.Error)
  | databaseExists (name : String)
  | script (path : String) (error : SystemError)
  | http (error : Http.Error)
  | responseStatus (code : Nat)
  | json (error : Json.ReadError) (text : String)
  | timeout (budget : Span)
  | responseDeadline
  | unsupportedRequestType (text : String)
deriving DecidableEq, Repr

namespace Fault

def message : Fault → String
  | config e => s!"Configuration error: {e.message}"
  | invalidConfig e => s!"Invalid configuration: {e.message}"
  | unconfigured reason => s!"Database configuration unavailable: {reason}"
  | database e => s!"Database error: {e.message}"
  | databaseExists name => s!"database \"{name}\" already exists"
  | script path e => s!"Failed to read init script {path}: {e.message}"
  | http e => s!"HTTP request error: {e.message}"
  | responseStatus code =>
    s!"Response URL rejected the response with status: {Http.describeStatus code}"
  | json e text => s!"JSON error: {e.messageIn text}"
  | timeout budget => s!"Handler timed out after {budget.describe}"
  | responseDeadline => "Response was not delivered before the invocation deadline"
  | unsupportedRequestType text => s!"Unsupported request type: {text}"

/-- The texts of the errors behind a fault. -/
def sources : Fault → List String
  | config e => [e.message]
  | database e => e.sources
  | script _ e => [e.message]
  | json e text => [e.messageIn text]
  | http e => [e.message]
  | _ => []

/-- Whether the operation that met the fault may do better when it is tried again. -/
def isRetryable : Fault → Bool
  | http (.sending _) => true
  | responseStatus code => Http.isTransient code
  | _ => false

/-- What the server reports when a database of that name exists. -/
def duplicateDatabase : String := "42P04"

/-- The fault of a failed `CREATE DATABASE`. -/
def ofCreateDatabase (e : Database.Error) (name : String) : Fault :=
  match e with
  | .server (some code) _ => if code = duplicateDatabase then databaseExists name else database e
  | _ => database e

/-- The fault that a configuration error is. -/
def ofConfigError : Config.Error → Fault
  | .settings e => config e
  | .rule e => invalidConfig e

end Fault

end DatabaseResource
