import AqlClient.Envelope
import AqlClient.Gateway.Basic
import AqlClient.Program.Basic

/-!
# Exchanges through a gateway

A call names a method, a payload, a path, parameters and a time limit (`Call`). Making it
(`Gateway.exchange`) encodes the payload, logs the request with its redacted headers, sends
it, and logs the response. A payload that cannot be encoded is refused before anything is
logged or sent. `Gateway.request` also reads the envelope of the response.
-/

namespace AqlClient

/-- A call to the server. The payload null stands for none. -/
structure Call where
  method : String
  payload : Value
  path : Option String
  params : Entries
  limit : TimeLimit

/-- The body that a payload is sent as, none for null. This is about payloads that the encoder's
interpreter does not give up on: their containers are nested less deep than its limit, and their
texts hold no unpaired surrogates. -/
def Value.encodePayload (payload : Value) : Except Failure (Option String) :=
  match payload with
  | .null => .ok none
  | v =>
    match v.write with
    | .ok body => .ok (some body)
    | .error e => .error (.malformed (.unencodable e))

namespace Gateway

/-- A number of milliseconds in the log. -/
def millisecondsText (ms : Value) : String := ((limiting ms).getD .unset).display

/-- The literal of a header map. -/
def headersLiteral (headers : Headers) : String :=
  "\x7b" ++ Value.commas (headers.map fun entry =>
    Quoted.text entry.1 ++ ": " ++ Quoted.text entry.2) ++ "\x7d"

/-- The request that a call leads to, with a given body. -/
def requestFor (g : Gateway) (c : Call) (body : Option String) : Request where
  method := c.method
  url := g.urlFor c.path
  headers := g.fullHeaders
  body := body
  params := c.params
  limit := c.limit.attached

/-- What is logged of a request. -/
def requestLines (g : Gateway) (q : Request) : List String :=
  [some ("Request URL: " ++ q.method ++ " " ++ q.url),
    if q.params.isEmpty then none
    else some ("Request params: '" ++ (Value.dict q.params).literal ++ "'"),
    if g.loggableHeaders.isEmpty then none
    else some ("Request headers: '" ++ headersLiteral g.loggableHeaders ++ "'"),
    q.body.map fun body => "Request payload: '" ++ body ++ "'",
    if q.limit.isSet then
      some ("Timeout (ms): for request " ++ millisecondsText q.limit.request ++
        " ms, overall operation " ++ millisecondsText q.limit.nominal ++ " ms")
    else none].filterMap id

/-- What is logged of a response. -/
def responseLines (r : Response) : List String :=
  ["Response status code: " ++ Numeral.ofInt r.status,
    "Response headers: '" ++ headersLiteral r.headers ++ "'",
    "Response text: '" ++ r.text ++ "'"]

/-- **Makes a call** in a mode: the response is returned whatever it says. -/
def exchange (g : Gateway) (mode : Mode) (c : Call) : Program Response := do
  if g.channel ≠ some mode then
    throw (.refused (.noTransport g.description mode.adjective))
  -- nothing is logged or sent before the payload has been encoded
  let body ← Program.ofExcept c.payload.encodePayload
  let q := g.requestFor c body
  Program.each (g.requestLines q) (Program.record .debug)
  let response ← Program.send q
  Program.each (responseLines response) (Program.record .debug)
  return response

/-- The description of a call in messages. -/
def callDescription (g : Gateway) (c : Call) : String := c.method ++ " " ++ g.urlFor c.path

/-- Reads the envelope of a response. -/
def readEnvelope (response : Response) (call : Option String) : Program Entries :=
  match Envelope.read response call with
  | .ok envelope => pure envelope
  | .error e => do
    Program.each (Envelope.refusalLine e).toList (Program.record .warning)
    throw e

/-- **Makes a call and reads the envelope** of the response. -/
def request (g : Gateway) (mode : Mode) (c : Call) : Program Entries := do
  let response ← g.exchange mode c
  readEnvelope response (some (g.callDescription c))

end Gateway

end AqlClient
