import DatabaseResource.Http.Web

/-!
# Endpoints that follow a script

An endpoint at one host and port that does with each call what a list says, and answers 200 behind
the end of the list. It does not speak TLS.
-/

namespace DatabaseResource.Http

/-- What the endpoint does with one call. -/
inductive Act where
  | react (reaction : Reaction)
  /-- It does not even read the call. -/
  | stall
deriving DecidableEq, Repr

/-- The reaction that a raw answer is: one with a status line, or garbage. -/
def Reaction.ofRaw (text : String) : Reaction :=
  match text.toList with
  | 'H' :: 'T' :: 'T' :: 'P' :: '/' :: '1' :: '.' :: v :: ' ' :: a :: b :: c :: _ =>
    match (v == '0' || v == '1'), Config.decimal? [a, b, c] with
    | true, some status => if 100 ≤ status then .answer status none else .garbage
    | _, _ => .garbage
  | _ => .garbage

/-- What the script says for the call that comes next, `before` calls being older than it. -/
def actAt (script : List Act) (before : Nat) (past : List Exchange) : Act :=
  let calls := (past.filter fun e => e matches .call _).length
  (script[calls - before]?).getD (.react (.answer 200 none))

/-- A web in which the URLs of `isEndpoint` lead to the script and no way leads anywhere else. -/
def Web.scripted (isEndpoint : Url → Bool) (script : List Act) (before : Nat) : Web where
  connect past url :=
    if !isEndpoint url then .unreachable
    else if url.scheme = "https" then .insecure
    else
      match actAt script before past with
      | .stall => .unanswered
      | .react _ => .established
  approach _ _ := 0
  react past _ :=
    match actAt script before past with
    | .stall => .silence
    | .react r => r
  latency _ _ := 0

end DatabaseResource.Http
