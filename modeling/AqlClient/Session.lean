import AqlClient.Gateway.Exchange
import AqlClient.Info

/-!
# Sessions

A session talks to one server under one set of options and one set of credentials
(`Session`). The header that carries the credentials is fixed when the session is made. A
session that owns its transport closes it when it is closed itself (`Session.close`,
`Session.closing`).

Beside requests of any kind (`Session.request`) a session asks the server for its version and
for its databases.
-/

namespace AqlClient

/-- A session with a server. -/
structure Session where
  serial : Nat
  mode : Mode
  address : String
  options : Options
  credentials : Credentials
  ownsTransport : Bool

/-- The gateway to a server for given credentials. Further headers are laid over the one of
the credentials. -/
def Gateway.toServer (mode : Mode) (address : String) (options : Options)
    (credentials : Credentials) : Gateway :=
  Gateway.make address "" (Named.merge [(credentialsHeader, credentials.header)] options.headers)
    options.callers options.redacted (some mode) options.release

namespace Session

variable {β : Type}

/-- A new session. -/
def opened (mode : Mode) (address : String) (options : Options) (credentials : Credentials)
    (ownsTransport : Bool) : Program Session := do
  let serial ← Program.view Scene.sessionCount
  Program.update .sessionMade
  return ⟨serial, mode, Url.trimEnd address, options, credentials, ownsTransport⟩

/-- The gateway of a session. -/
def gateway (s : Session) : Gateway :=
  Gateway.toServer s.mode s.address s.options s.credentials

/-- The description of a session whose transport has a given description. -/
def description (s : Session) (transport : String) : Except Failure String := do
  return s.mode.leadingWord ++ "Session(api_endpoint=\"" ++ s.address ++ "\", auth=" ++
    (← s.credentials.description) ++ ", transport=" ++ transport ++ ")"

/-- The limit for a single request. -/
def limit (s : Session) (request timeout : Option Int) : TimeLimit :=
  s.options.timeouts.singleLimit request timeout

/-- Logs what happens in a session. -/
def report (s : Session) (text : String) : Program Unit :=
  Program.record .info (text ++ s.mode.logEnding)

/-- Closes a session, and its transport if it owns it. -/
def close (s : Session) : Program Unit :=
  if s.ownsTransport then Program.update .transportClosed else pure ()

/-- A program behind which the session is closed. -/
def closing (s : Session) (body : Program β) : Program β := do
  let result ← body.attempt
  s.close
  Program.ofExcept result

/-- **Sends a request of any kind** and reads the envelope of the response. -/
def request (s : Session) (method path : String) (payload : Value) (params : Entries)
    (requestLimit timeout : Option Int) : Program Entries := do
  let path := Url.trimStart path
  s.report ("request " ++ method ++ " " ++ path)
  let envelope ← s.gateway.request s.mode
    ⟨method, payload, some path, params, s.limit requestLimit timeout⟩
  s.report ("finished request " ++ method ++ " " ++ path)
  return envelope

/-- Asks for the resource at a path. -/
def get (s : Session) (path : String) (requestLimit timeout : Option Int) : Program Entries :=
  s.request "GET" path .null [] requestLimit timeout

/-- The version of the server. -/
def version (s : Session) (requestLimit timeout : Option Int) : Program ServerVersion := do
  let envelope ← s.get Resource.version requestLimit timeout
  Program.ofExcept (ServerVersion.ofValue (.dict envelope))

/-- The list of names that an envelope carries. -/
def namesOf (envelope : Entries) : Except Failure (List String) := do
  let items ← envelope.required "result" [.list] Value.list?
  match items.mapM Value.str? with
  | some names => return names
  | none => throw (.malformed (.nonTextName envelope))

/-- The databases that the user of the session may access. -/
def accessibleDatabases (s : Session) (requestLimit timeout : Option Int) :
    Program (List String) := do
  Program.ofExcept (namesOf (← s.get Resource.accessibleDatabases requestLimit timeout))

/-- All databases of the server. -/
def allDatabases (s : Session) (requestLimit timeout : Option Int) :
    Program (List String) := do
  Program.ofExcept (namesOf (← s.get Resource.allDatabases requestLimit timeout))

end Session

end AqlClient
