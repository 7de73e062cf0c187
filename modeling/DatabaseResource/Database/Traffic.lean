/-!
# Traffic with the database server

What a database server sees of the connections to it, in order. `Traffic.redacted` leaves out what
a password says; `transcripts` parts the traffic by connections.
-/

namespace DatabaseResource.Database

inductive Traffic where
  /-- A connection to a host and port is asked for; the server need not hear of it. -/
  | dialled (host : String) (port : Nat)
  | connected
  | sslRequest
  | startup (user database : String)
  | password (text : String)
  | query (text : String)
  | terminate
  | serverClosed
deriving DecidableEq, Repr

namespace Traffic

/-- The same traffic without what a password says. -/
def redacted : Traffic → Traffic
  | password _ => password ""
  | t => t

/-- User and database of a startup. -/
def startup? : Traffic → Option (String × String)
  | startup user database => some (user, database)
  | _ => none

/-- The text of a query. -/
def query? : Traffic → Option String
  | query text => some text
  | _ => none

end Traffic

/-- As whom and for which database connections are started up. -/
def startups (sent : List Traffic) : List (String × String) := sent.filterMap Traffic.startup?

/-- The queries that are sent. -/
def queries (sent : List Traffic) : List String := sent.filterMap Traffic.query?

/-- The traffic of each connection, without the events that open it. -/
def transcripts : List Traffic → List (List Traffic)
  | [] => []
  | .connected :: rest =>
    rest.takeWhile (fun t => !t matches .dialled ..) :: transcripts rest
  | _ :: rest => transcripts rest

/-- Whether the client left a connection without a word: neither side closed it politely. -/
def isDropped (connection : List Traffic) : Bool :=
  !connection.contains .terminate && !connection.contains .serverClosed

end DatabaseResource.Database
