import CertScope.Transport
import CertScope.Url

/-!
# Requests over HTTP

Revocation lists are downloaded and status requests are posted. A redirection is
followed, up to a number of them. The response at the end counts if its status
says so and all of its body comes; a revocation list must not be longer than a
limit, whether its length is declared or found.
-/

namespace CertScope.Http

def userAgent : String := "tls-secret-inspect/0.1.0"

inductive Method where
  | get
  | post
  deriving DecidableEq, Repr

def Method.name : Method → String
  | get => "GET"
  | post => "POST"

structure Message where
  method : Method
  url : Url
  accept : String
  contentType : Option String
  body : Bytes
  deriving DecidableEq, Repr

/-- The first line of a request; the fragment is not sent. -/
def Message.line (message : Message) : String :=
  s!"{message.method.name} {message.url.path}{message.url.queryText} HTTP/1.1"

def listMessage (url : Url) : Message := ⟨.get, url, "*/*", none, []⟩

def statusMessage (url : Url) (body : Bytes) : Message :=
  ⟨.post, url, "application/ocsp-response", some "application/ocsp-request", body⟩

/-! ## Responses -/

inductive Framing where
  | declared (length : Nat)
  | chunked
  | untilClose
  deriving DecidableEq, Repr

structure Response where
  status : Nat
  framing : Framing
  /-- The bytes that came before the connection was closed. -/
  sent : Bytes
  deriving DecidableEq, Repr

namespace Response

/-- Whether the response is the last word of the server: its status has three
digits and is no interim one. -/
def isFinal (response : Response) : Bool :=
  response.status == 101 || (200 ≤ response.status && response.status ≤ 999)

def isSuccess (response : Response) : Bool :=
  200 ≤ response.status && response.status ≤ 299

/-- Whether the response has no body, whatever its head says. -/
def isBodiless (response : Response) : Bool := response.status == 204

def declaredLength? (response : Response) : Option Nat :=
  if response.isBodiless then some 0
  else match response.framing with
    | .declared length => some length
    | _ => none

/-- The body; nothing if the connection was closed in the middle of it. -/
def body? (response : Response) : Option Bytes :=
  if response.isBodiless then some []
  else match response.framing with
    | .declared length =>
        if response.sent.length < length then none else some (response.sent.take length)
    | _ => some response.sent

end Response

/-! ## Redirections -/

inductive Redirection where
  /-- By the statuses 301, 302 and 303: a body is not sent again. -/
  | withoutBody
  /-- By the statuses 307 and 308: the request is repeated as it is. -/
  | asItIs
  deriving DecidableEq, Repr

def Message.movedTo (message : Message) (place : Url) : Redirection → Message
  | .withoutBody => ⟨.get, place, message.accept, none, []⟩
  | .asItIs => { message with url := place }

def maxRedirections : Nat := 10

inductive Reply where
  /-- A response, or a connection that brings none, so many milliseconds after
  the request. -/
  | after (delay : Nat) (response : Option Response)
  /-- A redirection, so many milliseconds after the request. One without a
  readable place is a plain response. -/
  | moved (delay : Nat) (how : Redirection) (place : Url)
  | never
  deriving DecidableEq, Repr

abbrev Network := Message → Reply

def keeps (limit : Option Nat) (length : Nat) : Bool := limit.all (length ≤ ·)

def receive (url : String) (limit : Option Nat) (response : Response) : Except FetchError Bytes :=
  let tooLarge : Except FetchError Bytes := .error (.tooLarge (limit.getD 0))
  if !response.isSuccess then .error (.http url response.status)
  else if !response.declaredLength?.all (keeps limit) then tooLarge
  else
    match response.body? with
    | none => .error (.body "error decoding response body")
    | some body => if keeps limit body.length then .ok body else tooLarge

/-- Send a request, which `url` stands for in errors, and follow at most `left`
redirections. -/
def send (network : Network) (url : String) (limit : Option Nat) (left : Nat)
    (message : Message) : Answer :=
  match network message with
  | .never => .never
  | .after delay response =>
      match response.filter (·.isFinal) with
      | some response => .after delay (receive url limit response)
      | none =>
          .after delay (.error (.unreachable url
            s!"error sending request for url ({message.url.text})"))
  | .moved delay how place =>
      match left with
      | 0 =>
          .after delay (.error (.unreachable url
            s!"error following redirect for url ({message.url.text})"))
      | left + 1 => (send network url limit left (message.movedTo place how)).later delay

def isSpoken (scheme : String) : Bool := scheme == "http" || scheme == "https"

def fetchList (network : Network) (limit : Nat) (url : Url) : Answer :=
  if isSpoken url.scheme then
    send network url.text (some limit) maxRedirections (listMessage url)
  else .after 0 (.error (.unsupportedScheme url.scheme))

def postStatus (network : Network) (url : String) (body : Bytes) : Answer :=
  match Url.parse url with
  | .error _ => .after 0 (.error (.unreachable url "builder error"))
  | .ok parsed =>
      if isSpoken parsed.scheme then
        send network url none maxRedirections (statusMessage parsed body)
      else .after 0 (.error (.unreachable url s!"builder error for url ({parsed.text})"))

/-- The transport over a network that limits revocation lists to `limit` bytes. -/
def transport (network : Network) (limit : Nat) : Transport
  | .crl url =>
      match Url.parse url with
      | .ok url => fetchList network limit url
      | .error _ => .after 0 (.error (.unreachable url "builder error"))
  | .ocsp url body => postStatus network url body

end CertScope.Http
