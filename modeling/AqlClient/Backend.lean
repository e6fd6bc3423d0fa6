import AqlClient.Failure
import AqlClient.Mode
import AqlClient.Request
import AqlClient.Response
import AqlClient.Url

/-!
# Backends

A backend carries out exchanges through an HTTP library (`Backend`). There are two: one that
works in both modes and whose library attaches the request to the errors it raises, and one
that only blocks and whose library does not.

`Backend.handover` is what the library is given, with the limit in seconds. An error of the
library (`LibraryError`) is a timeout, a broken exchange, or something that does not concern
the exchange; the first two become failures of the transport (`Backend.failure`), which name
the URL that the library attached, or the one that was asked for, and the last one passes
through under its own name.

A backend is given connections, or makes its own, and these it closes itself
(`Connections.release`).
-/

namespace AqlClient

/-- The backends. -/
inductive Backend where
  | attaching (mode : Mode)
  | detached
  deriving DecidableEq, Repr

/-- The limit of a request in seconds. What is set has to be a number, and one of which the
thousandth part is not too large. -/
def TimeLimit.seconds (l : TimeLimit) : Except Failure (Option Binary64) :=
  match l.request, l.request.numeric? with
  | .null, _ => .ok Option.none
  | _, Option.none => .error .wrongType
  | _, some n =>
    if n.sameValue (.int 0) then .ok Option.none
    else
      match n.divide? 1000 with
      | some x => .ok (some x)
      | Option.none => .error .overflow

/-- What an HTTP library is given for an exchange. It makes one URL of the parameters and the URL. -/
structure Handover where
  method : String
  url : String
  params : Option Entries
  headers : Headers
  body : Option String
  seconds : Option Binary64

/-- What an error of an HTTP library says about the exchange. -/
inductive LibraryError.Cause where
  | timeout (part : TimeoutPart)
  | broken (name : String)
  | foreign (name : String)

/-- The request that a library attaches to an error: the URL and the body. -/
structure AttachedRequest where
  url : String
  body : String

/-- An error of an HTTP library, with the request if the library has attached one. -/
structure LibraryError where
  cause : LibraryError.Cause
  text : String
  request : Option AttachedRequest

namespace LibraryError

/-- What went wrong, in words: the text of the error, or its name if there is none. -/
def reason (name text : String) : String := if text.isEmpty then name else text

/-- The failure that an error turns into, with the URL that was asked for. -/
def failure (e : LibraryError) (url : String) (endpoint payload : Option String)
    (limit : TimeLimit) : Failure :=
  match e.cause with
  | .timeout part => .timeout (.exchange part e.text limit endpoint payload)
  | .broken name => .transport (.incomplete url (reason name e.text) endpoint payload)
  | .foreign name => .foreign name

/-- The failure that an error of an attaching library turns into. A broken exchange names
the URL that was asked for if nothing is attached, a timeout names none. -/
def failureAttached (e : LibraryError) (url : String) (limit : TimeLimit) : Failure :=
  let endpoint := e.request.map AttachedRequest.url
  let shown :=
    match e.cause with
    | .broken _ => some ((named endpoint).getD url)
    | _ => endpoint
  e.failure url shown (e.request.map AttachedRequest.body) limit

end LibraryError

/-- The connections of a backend: whether it has made them itself, and whether they are closed. -/
structure Connections where
  owned : Bool
  closed : Bool
  deriving DecidableEq, Repr

namespace Connections

/-- The connections of a new backend, which makes its own if it is not given any. -/
def opened (given : Bool) : Connections := ⟨!given, false⟩

/-- **What becomes of the connections** when the backend is closed: those that it has been given
are left to the one who has made them. -/
def release (c : Connections) : Connections := if c.owned then { c with closed := true } else c

end Connections

namespace Backend

/-- The description of a backend. -/
def description : Backend → String
  | .attaching mode => mode.leadingWord ++ "HttpxTransport()"
  | .detached => "RequestsTransport()"

/-- The body as the library gets it: an attaching library has an empty one in the place of
none, the other one has none in the place of an empty one. -/
def bodyFor (b : Backend) (body : Option String) : Option String :=
  match b with
  | .attaching _ => some (body.getD "")
  | .detached => named body

/-- **What the library is given** for a request. -/
def handover (b : Backend) (q : Request) : Except Failure Handover := do
  return { method := q.method
           url := q.url
           params := if q.params.isEmpty then none else some q.params
           headers := q.headers
           body := b.bodyFor q.body
           seconds := ← q.limit.seconds }

/-- **The failure** that an error of the library turns into. -/
def failure (b : Backend) (q : Request) (e : LibraryError) : Failure :=
  match b with
  | .attaching _ => e.failureAttached q.url q.limit
  | .detached => e.failure q.url (some q.url) q.body q.limit

/-- An exchange, given what the library makes of it. -/
def execute (b : Backend) (q : Request)
    (exchange : Handover → Except LibraryError (Int × Headers × List UInt8)) :
    Except Failure Response := do
  match exchange (← b.handover q) with
  | .ok (status, headers, body) => return Response.ofParts status headers body
  | .error e => throw (b.failure q e)

/-! ### The errors of the libraries -/

/-- The part of an exchange that a named timeout is about. -/
def timeoutPart? : String → Option TimeoutPart
  | "ConnectTimeout" => some .connect
  | "ReadTimeout" => some .read
  | "WriteTimeout" => some .write
  | "PoolTimeout" => some .pool
  | "TimeoutException" => some .generic
  | "Timeout" => some .generic
  | _ => none

/-- What a named error says about the exchange that it belongs to. -/
def exchangeCause (name : String) : LibraryError.Cause :=
  match timeoutPart? name with
  | some part => .timeout part
  | none => .broken name

/-- The errors of an attaching library by which an exchange breaks off. -/
def brokenExchanges : List String :=
  ["TransportError", "NetworkError", "ConnectError", "ReadError", "WriteError", "CloseError",
    "ProxyError", "UnsupportedProtocol", "ProtocolError", "LocalProtocolError",
    "RemoteProtocolError"]

/-- What the other library may raise beside errors. -/
def warnings : List String :=
  ["RequestsWarning", "FileModeWarning", "RequestsDependencyWarning"]

/-- Whether a named error of the backend's library concerns the exchange. -/
def concernsExchange (b : Backend) (name : String) : Bool :=
  match b with
  | .attaching _ => (timeoutPart? name).isSome || brokenExchanges.contains name
  | .detached => !warnings.contains name

/-- What a named error of the backend's library says. -/
def causeOf (b : Backend) (name : String) : LibraryError.Cause :=
  if b.concernsExchange name then exchangeCause name else .foreign name

end Backend

end AqlClient
