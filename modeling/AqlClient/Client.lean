import AqlClient.Session
import AqlClient.Timing.Deadline

/-!
# Clients

A client holds options from which sessions are made (`Client`). Making one
(`Client.connect`) takes at most two requests under one deadline: credentials of the kind
that needs it are exchanged for a token, and then the server is asked for its version, which
shows that it can be reached and that it accepts the credentials. A transport that was made
for the session is closed if any of this fails.
-/

namespace AqlClient

/-- A client: the options for its sessions. -/
structure Client where
  options : Options

namespace Client

/-- The override that sets credentials only. -/
def credentialsOnly (credentials : Option Credentials) : OptionsOverride :=
  { OptionsOverride.none with credentials := credentials }

/-- A client in some release from options, over which callers and credentials are laid. -/
def make (release : String) (options : Option OptionsOverride) (callers : Option (List Caller))
    (credentials : Option Credentials) : Client where
  options := (Options.standard release).overriddenByAll
    (options.toList ++ [{ credentialsOnly credentials with callers := callers }])

/-- The options of a session. -/
def sessionOptions (c : Client) (options : Option OptionsOverride)
    (credentials : Option Credentials) : Options :=
  c.options.overriddenByAll (options.toList ++ [credentialsOnly credentials])

/-- Whether two clients have the same options. -/
def sameAs (c d : Client) : Bool := c.options.sameAs d.options

/-- The token in the answer to a login. -/
def tokenOf (envelope : Entries) : Except Failure String := do
  let token ← envelope.required "jwt" [.str] Value.str?
  if token.isEmpty then throw (.malformed (.emptyToken envelope))
  return token

/-- The credentials for the requests of a session: a login is exchanged for a token. -/
def settledCredentials (mode : Mode) (address : String) (options : Options)
    (deadline : Deadline) : Program Credentials := do
  match options.credentials with
  | .login username password =>
    let limit ← Program.ofExcept
      (deadline.remaining (← Program.now) options.timeouts.request (some requestTimeoutLabel))
    let gateway := Gateway.toServer mode address options options.credentials
    let whose := "'" ++ username.display ++ "'" ++ mode.logEnding
    Program.record .info ("obtaining JWT for " ++ whose)
    let envelope ← gateway.request mode
      ⟨"POST", .dict (Credentials.loginPayload username password), some Resource.login, [], limit⟩
    Program.record .info ("finished obtaining JWT for " ++ whose)
    return .bearer (.str (← Program.ofExcept (tokenOf envelope)))
  | c => return c

/-- A session, once its server has told its version. -/
def establish (mode : Mode) (address : String) (options : Options) (ownsTransport : Bool)
    (deadline : Deadline) : Program (Session × ServerVersion) := do
  let credentials ← settledCredentials mode address options deadline
  let session ← Session.opened mode address options credentials ownsTransport
  session.report ("probing server at " ++ session.address)
  let limit ← Program.ofExcept
    (deadline.remaining (← Program.now) options.timeouts.request (some requestTimeoutLabel))
  let envelope ← session.gateway.request mode ⟨"GET", .null, some Resource.version, [], limit⟩
  let version ← Program.ofExcept (ServerVersion.ofValue (.dict envelope))
  return (session, version)

/-- **Makes a session.** -/
def connect (c : Client) (mode : Mode) (address : String) (credentials : Option Credentials)
    (options : Option OptionsOverride) (ownsTransport : Bool) : Program Session := do
  let settings := c.sessionOptions options credentials
  let deadline ← Program.ofExcept (Deadline.starting (← Program.now) settings.timeouts.general
    (some generalTimeoutLabel))
  match ← (establish mode address settings ownsTransport deadline).attempt with
  | .ok (session, version) =>
    session.report ("connected to " ++ session.address ++ ": " ++ version.server.display ++ " " ++
      version.version.display)
    return session
  | .error e =>
    -- nobody else knows a transport that was made for this session
    if ownsTransport then Program.update .transportClosed
    throw e

end Client

end AqlClient
