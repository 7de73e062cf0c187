import DatabaseResource.Activity
import DatabaseResource.Database.Server

/-!
# Sessions with a database server

Opening a connection, sending one query over it, and closing it. A query is done when the server
is ready for the next one; its first error is what it fails with, whatever comes before.
-/

namespace DatabaseResource.Database

open Activity

/-- What the server has seen up to now. -/
def seen : Activity (List Traffic) := do
  let m ← moment
  return traffic m.events

/-- Sends a message. -/
def send (t : Traffic) : Activity Unit := emit (.traffic t)

/-- Waits for the server's answer to what it has seen. -/
def awaitAnswer (server : Server) : Activity (List Traffic) := do
  let past ← seen
  match server.latency past with
  | none => never
  | some n =>
    sleep (n + 1)
    return past

/-- Waits until a connection stands or is refused, and says why it is refused. -/
def approach (server : Server) (target : Target) : Activity (Option SystemError) := do
  send (.dialled target.host target.port)
  let past ← seen
  match server.approach past target with
  | none => never
  | some n =>
    sleep n
    return server.refusal past target

/-- What it is when the server closes the connection before it has said what is due. -/
def closedEarly : Error :=
  .io (.text .unexpectedEnd "expected to read 5 bytes, got 0 bytes at EOF")

/-- The server closes the connection. -/
def closedByServer : Activity Error := do
  send .serverClosed
  return closedEarly

/-- Whether a mode asks for a secured connection. -/
def wantsSsl : SslMode → Bool
  | .disable | .allow => false
  | .prefer | .require | .verifyCa | .verifyFull => true

/-- The answer to the wish for a secured connection is a byte that says nothing. A client that gets
no byte at all takes it for zero. -/
def unexpectedByte (byte : Nat) : Error :=
  let digits := Nat.toDigits 16 byte
  let digits := String.ofList (List.replicate (2 - digits.length) '0' ++ digits)
  .protocol s!"unexpected response from SSLRequest: 0x{digits}"

/-- Asks for a secured connection where the mode wants one; only `prefer` goes on without it. -/
def negotiate (server : Server) (mode : SslMode) : Activity (Except Error Unit) := do
  if !wantsSsl mode then return .ok ()
  send .sslRequest
  let past ← awaitAnswer server
  match server.ssl past with
  | .plain =>
    return if mode = .prefer then .ok () else .error (.tls "server does not support TLS")
  | .secured => return .ok ()
  | .broken text => return .error (.tls text)
  | .other byte => return .error (unexpectedByte byte)
  | .closed =>
    send .serverClosed
    return .error (unexpectedByte 0)

/-- What a login comes to. -/
def enter : Admission → Activity (Except Error Unit)
  | .welcome => return .ok ()
  | .refused notice => return .error notice.toError
  | .closed => return .error (← closedByServer)
  | .other error => return .error error

/-- Tells the server who connects, and the password where it wants one. -/
def logIn (server : Server) (target : Target) : Activity (Except Error Unit) := do
  send (.startup target.username target.database)
  let past ← awaitAnswer server
  match server.login past with
  | .settled admission => enter admission
  | .passwordWanted =>
    send (.password target.password)
    let past ← awaitAnswer server
    enter (server.verdict past)

/-- Opens a connection. -/
def connect (server : Server) (target : Target) : Activity (Except Error Unit) := do
  match ← approach server target with
  | some e => return .error (.io e)
  | none =>
    send .connected
    match ← negotiate server target.sslMode with
    | .error e => return .error e
    | .ok () => logIn server target

/-- The number at the end of a command tag: what follows its last space, as far as it is a number
of 64 bits. -/
def rowsOfTag (tag : String) : Nat :=
  let cs := tag.toList
  if !cs.contains ' ' then 0
  else
    let last := (cs.reverse.takeWhile (· != ' ')).reverse
    let last := match last with
      | '+' :: ds => ds
      | ds => ds
    let n := (last.takeWhile fun c => '0' ≤ c && c ≤ '9').foldl
      (fun n c => n * 10 + (c.toNat - 48)) 0
    if n < 1 <<< 64 then n else 0

/-- What comes of the answer to a query: the sum of its rows as a number of 64 bits, the first
error, or `none` if the server does not get ready. -/
def settle (rows : Nat) : List Message → Option (Except Error Nat)
  | [] => none
  | .ready :: _ => some (.ok rows)
  | .error notice :: _ => some (.error notice.toError)
  | .other error :: _ => some (.error error)
  | .done tag :: rest => settle ((rows + rowsOfTag tag) % (1 <<< 64)) rest
  | .row :: rest | .emptyQuery :: rest | .notice _ :: rest => settle rows rest

/-- Whether the server leaves the connection open behind an answer. -/
def staysOpen (answer : List Message) : Bool := answer.contains .ready

/-- Sends a query and takes its answer; gives the number of rows, and whether the connection is
still open. -/
def execute (server : Server) (text : String) : Activity (Except Error Nat × Bool) := do
  send (.query text)
  let past ← awaitAnswer server
  let answer := server.reply past
  let isOpen := staysOpen answer
  if !isOpen then send .serverClosed
  return ((settle 0 answer).getD (.error closedEarly), isOpen)

/-- Ends a connection; nobody hears of it where the server has closed it. -/
def close (server : Server) (isOpen : Bool) : Activity (Except Error Unit) := do
  if isOpen then send .terminate
  let past ← seen
  match server.parting past with
  | none => never
  | some n =>
    sleep n
    match server.closing past with
    | some e => return .error (.io e)
    | none => return .ok ()

/-- Sends one query over a connection of its own. An error of the query counts before one of the
end. `fault` says what an error of the query is. -/
def runQuery {φ : Type} (server : Server) (target : Target) (text : String) (other : Error → φ)
    (fault : Error → φ) : Activity (Except φ Nat) := do
  match ← connect server target with
  | .error e => return .error (other e)
  | .ok () =>
    let (result, isOpen) ← execute server text
    let closed ← close server isOpen
    match result, closed with
    | .error e, _ => return .error (fault e)
    | .ok _, .error e => return .error (other e)
    | .ok rows, .ok () => return .ok rows

end DatabaseResource.Database
