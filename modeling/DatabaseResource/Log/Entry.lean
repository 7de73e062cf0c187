import DatabaseResource.Config.Basic
import DatabaseResource.Fault
import DatabaseResource.Response

/-!
# Log entries

What the resource writes to its log, by meaning. `level`, `message?` and `fields` say how an entry
is written. An entry that belongs to an invocation has a context that names it.
-/

namespace DatabaseResource.Log

inductive Level where
  | info
  | warn
  | error
deriving DecidableEq, Repr

def Level.name : Level → String
  | info => "INFO"
  | warn => "WARN"
  | error => "ERROR"

/-- The invocation to which an entry belongs. -/
structure Context where
  invocationId : String
  requestType : String
  logicalResourceId : String
deriving DecidableEq, Repr

namespace Context

def fields (c : Context) : List (String × String) :=
  [("aws_request_id", c.invocationId), ("request_type", c.requestType),
    ("logical_resource_id", c.logicalResourceId)]

end Context

inductive Field where
  | text (value : String)
  | number (value : Nat)
deriving DecidableEq, Repr

inductive Entry where
  | nameNotPlain (database : String)
  | configured (user host : String) (port : Nat) (database : String) (mode : SslMode)
  | notConfigured (fault : Fault)
  | ready
  | databaseCreated (database host : String)
  | scriptExecuted (database : String) (rows : Nat)
  | phaseFailed (fault : Fault)
  | phaseTimedOut (fault : Fault)
  /-- A try to deliver has failed, and the next one begins after a pause. -/
  | deliveryRepeated (fault : Fault) (pause : Span)
  | delivered (status : Status) (physicalResourceId : String)
deriving DecidableEq, Repr

namespace Entry

def level : Entry → Level
  | nameNotPlain _ | deliveryRepeated .. => .warn
  | notConfigured _ | phaseFailed _ | phaseTimedOut _ => .error
  | configured .. | ready | databaseCreated .. | scriptExecuted .. | delivered .. => .info

def message? : Entry → Option String
  | nameNotPlain _ => some "database name is not a plain identifier; it is used unquoted"
  | configured .. => none
  | notConfigured _ => some "database configuration failed to load"
  | ready => some "custom resource handler ready"
  | databaseCreated .. => some "database created"
  | scriptExecuted .. => some "init script executed"
  | phaseFailed _ => some "phase handler failed"
  | phaseTimedOut _ => some "phase handler did not finish in time"
  | deliveryRepeated .. => some "response delivery failed; retrying"
  | delivered .. => some "response delivered"

def fields : Entry → List (String × Field)
  | nameNotPlain database => [("database", .text database)]
  | configured user host port database mode =>
    [("user", .text user), ("host", .text host), ("port", .number port),
      ("database", .text database), ("ssl_mode", .text mode.name)]
  | ready => []
  | databaseCreated database host => [("database", .text database), ("host", .text host)]
  | scriptExecuted database rows =>
    [("database", .text database), ("rows_affected", .number rows)]
  | notConfigured fault | phaseFailed fault | phaseTimedOut fault =>
    [("error", .text fault.message)]
  | deliveryRepeated fault pause =>
    [("error", .text fault.message), ("retry_in", .text pause.describe)]
  | delivered status id => [("status", .text status.name), ("physical_resource_id", .text id)]

/-- An entry in one line: level, message, fields, and the context's fields. -/
def describe (context : Option Context) (e : Entry) : String :=
  let value : Field → String
    | .text t => t
    | .number n => toString n
  let fields := e.fields.map (fun (n, f) => (n, value f)) ++ (context.map Context.fields).getD []
  " ".intercalate
    (e.level.name :: e.message?.toList ++ fields.map fun (n, v) => s!"{n}={v}")

end Entry

end DatabaseResource.Log
