import DatabaseResource.SystemError

/-!
# Errors of the database client

Why a connection, a login or a statement failed. `sources` lists the texts of an error and of the
errors behind it.
-/

namespace DatabaseResource.Database

inductive Error where
  | configuration (text : String)
  | invalidArgument (text : String)
  | io (error : SystemError)
  | tls (text : String)
  | protocol (text : String)
  | server (code : Option String) (message : String)
  | typeNotFound (name : String)
  | columnNotFound (name : String)
  | encode (text : String)
  | decode (text : String)
  | rowNotFound
  | poolTimedOut
  | poolClosed
  | workerCrashed
deriving DecidableEq, Repr

namespace Error

def message : Error → String
  | configuration t => s!"error with configuration: {t}"
  | invalidArgument t => t
  | io e => s!"error communicating with database: {e.message}"
  | tls t => s!"error occurred while attempting to establish a TLS connection: {t}"
  | protocol t => s!"encountered unexpected or invalid data: {t}"
  | server _ m => s!"error returned from database: {m}"
  | typeNotFound n => s!"type named {n} not found"
  | columnNotFound n => s!"no column found for name: {n}"
  | encode t => s!"error occurred while encoding a value: {t}"
  | decode t => s!"error occurred while decoding: {t}"
  | rowNotFound =>
    "no rows returned by a query that expected to return at least one row"
  | poolTimedOut => "pool timed out while waiting for an open connection"
  | poolClosed => "attempted to acquire a connection on a closed pool"
  | workerCrashed => "attempted to communicate with a crashed background worker"

/-- The text of the error behind an error, if there is one. -/
def inner? : Error → Option String
  | configuration t | tls t | encode t | decode t | server _ t => some t
  | io e => some e.message
  | _ => none

/-- The text of an error, and of the one behind it. -/
def sources (e : Error) : List String := e.message :: e.inner?.toList

end Error

end DatabaseResource.Database
