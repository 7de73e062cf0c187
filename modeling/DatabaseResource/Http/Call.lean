import DatabaseResource.Text.Base64
import DatabaseResource.Url.Basic

/-!
# Requests over HTTP

A call is what an endpoint gets: method, place, headers and body. A document is delivered by a `PUT`
with an empty content type; a redirect repeats the call at another place or turns it into a `GET`.
-/

namespace DatabaseResource.Http

inductive Method where
  | get
  | put
deriving DecidableEq, Repr

def Method.name : Method → String
  | get => "GET"
  | put => "PUT"

structure Call where
  method : Method
  /-- The place, in its normal form. -/
  url : Url
  /-- Path and query, as the first line of the call says them. -/
  target : String
  /-- User name and password, as the first URL of the try gives them. -/
  credentials : Option (String × String)
  body : Option String
deriving DecidableEq, Repr

namespace Call

/-- The program's name, as it introduces itself. -/
def userAgent : String := "clay-stack-init/0.1.0"

/-- The text that a percent-encoded part of a URL stands for. -/
private def decoded (part : String) : String :=
  (Text.ofUtf8? (Text.percentDecode part.toList)).getD part

/-- The call that delivers a document. -/
def deliver (url : Url) (body : String) : Call where
  method := .put
  url := url.withoutUser
  target := url.target
  credentials := url.authority.bind fun a =>
    if a.username.isEmpty && a.password.isEmpty then none
    else some (decoded a.username, decoded a.password)
  body := some body

/-- The headers that say something about the call. -/
def headers (c : Call) : List (String × String) :=
  (match c.credentials with
    | some (user, password) =>
      [("authorization",
        "Basic " ++ String.ofList (Text.base64 s!"{user}:{password}".toUTF8.toList))]
    | none => [])
    ++ (match c.body with
      | some body => [("content-type", ""), ("content-length", toString body.utf8ByteSize)]
      | none => [])
    ++ [("user-agent", userAgent)]

/-- Whether two URLs lie on the same host and port, named or implied by the scheme. -/
def sameHost (u v : Url) : Bool :=
  let hostPort (w : Url) : Option (Url.Host × Option Nat) :=
    w.authority.map fun a => (a.host, a.port <|> Url.defaultPort? w.scheme)
  hostPort u == hostPort v

/-- The call that follows a redirect to another place; credentials stay with their host. -/
def redirected (c : Call) (status : Nat) (place : Url) (target : String) : Call where
  method := if status = 303 then .get else c.method
  url := place
  target
  credentials := if sameHost c.url place then c.credentials else none
  body := if status = 303 then none else c.body

end Call

/-- What the network sees of a try. -/
inductive Exchange where
  /-- A connection to the host of a URL is asked for; no endpoint need hear of it. -/
  | dialled (url : Url)
  | call (c : Call)
  | handshake
deriving DecidableEq, Repr

namespace Exchange

/-- Whether an endpoint gets something. -/
def isRequest : Exchange → Bool
  | dialled _ => false
  | call _ | handshake => true

def call? : Exchange → Option Call
  | call c => some c
  | _ => none

end Exchange

end DatabaseResource.Http
