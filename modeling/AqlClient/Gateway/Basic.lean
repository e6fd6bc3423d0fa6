import AqlClient.Mode
import AqlClient.Options
import AqlClient.Text.LetterCase
import AqlClient.Url

/-!
# Gateways

A gateway knows how the server is addressed: the address and the path below which its
requests go, the headers they carry, and the kind of transport it can use (`Gateway`).

The headers of a request are laid over each other in this order, by their exact names: the
type of the content, the type that is accepted, the sender, and the headers given to the
gateway, of which those without a value are left out (`Gateway.fullHeaders`). In logs the
values of some headers are replaced. Which these are is decided by their names in capital
letters: that of the credentials, and all names that were given to be hidden
(`Gateway.loggableHeaders`).
-/

namespace AqlClient

/-- The name of the header that carries credentials. -/
def credentialsHeader : String := "Authorization"

/-- How the server is addressed. -/
structure Gateway where
  address : String
  path : String
  headers : HeaderWishes
  callers : List Caller
  redacted : NameSet
  channel : Option Mode
  /-- The release of the client that names itself as a sender. -/
  release : String

/-- What may be changed in a copy of a gateway. -/
structure GatewayChanges where
  address : Option String
  path : Option String
  headers : Option HeaderWishes
  callers : Option (List Caller)
  redacted : Option NameSet

namespace Gateway

/-- A gateway for an address and a path, which are freed of slashes at their seams. -/
def make (address path : String) (headers : HeaderWishes) (callers : List Caller)
    (redacted : NameSet) (channel : Option Mode) (release : String) : Gateway where
  address := Url.trimEnd address
  path := Url.trim path
  headers := headers
  callers := callers
  redacted := redacted
  channel := channel
  release := release

/-- A copy with some changes. -/
def changed (g : Gateway) (c : GatewayChanges) : Gateway :=
  make (c.address.getD g.address) (c.path.getD g.path) (c.headers.getD g.headers)
    (c.callers.getD g.callers) (c.redacted.getD g.redacted) g.channel g.release

/-- A copy for another path. -/
def withPath (g : Gateway) (path : String) : Gateway :=
  g.changed ⟨none, some path, none, none, none⟩

/-- The URL below which the requests go. -/
def url (g : Gateway) : String := Url.base g.address g.path

/-- The URL of a request. -/
def urlFor (g : Gateway) (path : Option String) : String := Url.extended g.url path

/-- The headers that every request carries unless the gateway is told otherwise. -/
def standardHeaders (g : Gateway) : HeaderWishes :=
  [("Content-Type", some "application/json"), ("Accept", some "application/json")] ++
    (Caller.userAgent (g.callers ++ [Caller.client g.release])).toList.map fun sender =>
      ("User-Agent", some sender)

/-- **The headers of a request.** -/
def fullHeaders (g : Gateway) : Headers :=
  HeaderWishes.granted (g.standardHeaders.merge g.headers)

/-- Whether the value of a header must not be shown. -/
def hides (g : Gateway) (name : String) : Bool :=
  (g.redacted ++ [credentialsHeader]).any fun hidden =>
    LetterCase.upper hidden == LetterCase.upper name

/-- **The headers of a request as they may be logged.** -/
def loggableHeaders (g : Gateway) : Headers :=
  g.fullHeaders.map fun entry =>
    (entry.1, if g.hides entry.1 then redactedValue else entry.2)

/-- The description of a gateway. -/
def description (g : Gateway) : String :=
  "APICommander(" ++ Value.commas ["api_endpoint=" ++ g.address, "path=" ++ g.path,
    "callers=" ++ Caller.literals g.callers] ++ ")"

/-- Whether two gateways of one transport address the server in the same way. -/
def sameAs (g h : Gateway) : Bool :=
  g.address == h.address && g.path == h.path && g.headers.agrees h.headers &&
    g.callers == h.callers && g.redacted.same h.redacted && g.channel == h.channel

end Gateway

end AqlClient
