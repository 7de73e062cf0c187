import DatabaseResource.Database.Server

/-!
# Database servers that follow a script

A server that does with each connection what a list says, and behind the end of the list lets
everybody in and is done with each query at once.
-/

namespace DatabaseResource.Database

/-- What the server does with one connection. -/
structure ConnectionScript where
  ssl : SslAnswer := .plain
  asksPassword : Bool := false
  refusal : Option Notice := none
  closesAtStartup : Bool := false
  replies : List (List Message) := []
deriving Repr, Inhabited

/-- What becomes of a login to which the server answers. -/
def ConnectionScript.admission (s : ConnectionScript) : Admission :=
  (s.refusal.map .refused).getD .welcome

/-- The answer to a query for which the script says nothing. -/
def plainReply : List Message := [.done "OK", .ready]

/-- The traffic of the connection that was opened last. -/
def lastConnection (past : List Traffic) : List Traffic :=
  (past.reverse.takeWhile (· != .connected)).reverse

/-- What the script says for the connection that was opened last. -/
def scriptAt (scripts : List ConnectionScript) (past : List Traffic) : ConnectionScript :=
  (scripts[past.count .connected - 1]?).getD {}

/-- A server that can be reached where `refusal` says nothing against it. -/
def Server.scripted (refusal : Target → Option SystemError) (scripts : List ConnectionScript) :
    Server where
  approach _ _ := some 0
  refusal _ target := refusal target
  ssl past := (scriptAt scripts past).ssl
  login past :=
    let script := scriptAt scripts past
    if script.closesAtStartup then .settled .closed
    else if script.asksPassword then .passwordWanted
    else .settled script.admission
  verdict past := (scriptAt scripts past).admission
  reply past :=
    let queries := ((lastConnection past).filter fun t => t matches .query _).length
    ((scriptAt scripts past).replies[queries - 1]?).getD plainReply
  closing _ := none
  parting _ := some 0
  latency _ := some 0

end DatabaseResource.Database
