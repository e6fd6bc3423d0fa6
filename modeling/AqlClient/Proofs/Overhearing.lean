import AqlClient.Proofs.Connecting
import AqlClient.Proofs.Program.Beside

/-!
# What the log says of a login

Two clients log in by the same name and with different passwords, and nothing else is different.
Their credentials are never described, and the header that would carry them has no value yet. But
the body of the request for a token contains the password, and the body of each request is logged
like everything else about it (`Gateway.requestLines`).

So the password is kept from those who read the lines from some level above the lowest on, and from
nobody else: `Client.login_overheard` says that this line differs, and that it is the only one.
-/

namespace AqlClient

open Program (Unison Overheard Beside)

/-- A session that was made from other credentials. -/
def Session.madeFrom (session : Session) (c : Credentials) : Session :=
  { session with options := { session.options with credentials := c } }

namespace Client

variable {settings : Options} {u p p' body body' : String}

/-- The login without a token is sent through the same gateway, whatever the password is. -/
theorem toServer_login (hlogin : settings.credentials = .login (.str u) (.str p)) (mode : Mode)
    (address : String) :
    Gateway.toServer mode address { settings with credentials := .login (.str u) (.str p') }
        (.login (.str u) (.str p')) =
      Gateway.toServer mode address settings settings.credentials := by
  unfold Gateway.toServer
  rw [hlogin]
  rfl

/-- **The exchange of a login for a token** is told apart by its body, and leads to the same token. -/
theorem overheard_settledCredentials (hlogin : settings.credentials = .login (.str u) (.str p))
    (hbody : (Value.dict (Credentials.loginPayload (.str u) (.str p))).encodePayload =
      .ok (some body))
    (hbody' : (Value.dict (Credentials.loginPayload (.str u) (.str p'))).encodePayload =
      .ok (some body'))
    (mode : Mode) (address : String) (deadline : Deadline) :
    Overheard body body' Eq (settledCredentials mode address settings deadline)
      (settledCredentials mode address
        { settings with credentials := .login (.str u) (.str p') } deadline) := by
  unfold settledCredentials
  rw [hlogin]
  dsimp only
  rw [toServer_login hlogin, hlogin]
  refine .byClock fun limit => .record_bind _ _ ?_
  refine (Gateway.overheard_request rfl hbody hbody').bind fun envelope _ h => ?_
  obtain rfl := h
  exact .andThen (.record _ _) fun _ => .andThen (.ofExcept _) fun token => .pure rfl

/-- With the same token, the same is done to establish a session. -/
theorem overheard_establish (hlogin : settings.credentials = .login (.str u) (.str p))
    (hbody : (Value.dict (Credentials.loginPayload (.str u) (.str p))).encodePayload =
      .ok (some body))
    (hbody' : (Value.dict (Credentials.loginPayload (.str u) (.str p'))).encodePayload =
      .ok (some body'))
    (mode : Mode) (address : String) (ownsTransport : Bool) (deadline : Deadline) :
    Overheard body body'
      (fun made made' => made' = (made.1.madeFrom (.login (.str u) (.str p')), made.2))
      (establish mode address settings ownsTransport deadline)
      (establish mode address { settings with credentials := .login (.str u) (.str p') }
        ownsTransport deadline) := by
  unfold establish
  refine (overheard_settledCredentials hlogin hbody hbody' mode address deadline).bind
    fun token _ h => ?_
  obtain rfl := h
  have hopened : Unison
      (fun session session' => session' = session.madeFrom (.login (.str u) (.str p')))
      (Session.opened mode address settings token ownsTransport)
      (Session.opened mode address { settings with credentials := .login (.str u) (.str p') }
        token ownsTransport) :=
    .view_bind (fun _ => rfl) fun serial => .andThen (.update _) fun _ => .pure rfl
  refine hopened.bind fun session _ hsession => ?_
  obtain rfl := hsession
  refine .andThen (.record _ _) fun _ => .byClock fun limit => ?_
  refine .andThen (Gateway.unison_request _ _ _) fun envelope => ?_
  exact .andThen (.ofExcept _) fun version => .pure rfl

/-- **Passwords are overheard.** Let two clients log in by the same name and with two passwords, all
other settings and the replies being the same. Then either none of them sends anything, because the
time is up, or what they log and send is the same but for the body of the request for a token, which
contains the password, and for the one line in which that body is logged. So above the level of this
line they log the same. What they come to is the same, too. -/
theorem login_overheard {client client' : Client} {options options' : Option OptionsOverride}
    {credentials credentials' : Option Credentials}
    (hlogin : (client.sessionOptions options credentials).credentials = .login (.str u) (.str p))
    (hsame : client'.sessionOptions options' credentials' =
      { client.sessionOptions options credentials with credentials := .login (.str u) (.str p') })
    (mode : Mode) (address : String) (ownsTransport : Bool) (s : Scene) :
    ∃ body body' x x',
      (Value.dict (Credentials.loginPayload (.str u) (.str p))).encodePayload = .ok (some body) ∧
      (Value.dict (Credentials.loginPayload (.str u) (.str p'))).encodePayload = .ok (some body') ∧
      s.Leaves ((client.connect mode address credentials options ownsTransport).run s).2 x ∧
      s.Leaves ((client'.connect mode address credentials' options' ownsTransport).run s).2 x' ∧
      (x' = x ∧ x.requests = [] ∨ x.ToldApart body body' x') ∧
      (∀ least ≠ LogLevel.debug, x'.lines.filter (fun line => line.level.reaches least) =
        x.lines.filter (fun line => line.level.reaches least)) ∧
      Concur (fun session session' => session' = session.madeFrom (.login (.str u) (.str p')))
        ((client.connect mode address credentials options ownsTransport).run s).1
        ((client'.connect mode address credentials' options' ownsTransport).run s).1 := by
  obtain ⟨body, hbody⟩ := Credentials.encodePayload_login u p
  obtain ⟨body', hbody'⟩ := Credentials.encodePayload_login u p'
  have hconnect : Overheard body body'
      (fun session session' => session' = session.madeFrom (.login (.str u) (.str p')))
      (client.connect mode address credentials options ownsTransport)
      (client'.connect mode address credentials' options' ownsTransport) := by
    unfold connect
    dsimp only
    rw [hsame]
    generalize client.sessionOptions options credentials = settings at *
    refine .byClock fun deadline => ?_
    refine (overheard_establish hlogin hbody hbody' mode address ownsTransport
      deadline).attempt_bind (fun r r' hconcur => ?_) fun e e' => ?_
    · cases r with
      | ok made =>
        cases r' with
        | ok made' =>
          obtain ⟨session, version⟩ := made
          obtain rfl := hconcur
          exact .andThen (.record _ _) fun _ => .pure rfl
        | error e => cases hconcur
      | error e =>
        cases r' with
        | ok made' => cases hconcur
        | error e' =>
          cases ownsTransport with
          | true => exact .andThen (.update _) fun _ => .throw e e'
          | false => exact .throw e e'
    · -- a transport may have to be closed, which nobody hears of
      cases ownsTransport with
      | true =>
        refine Beside.update_bind .transportClosed (Beside.thrown ?_)
        exact ⟨⟨e, rfl⟩, ⟨e', rfl⟩, rfl, rfl⟩
      | false => exact Beside.thrown ⟨⟨e, rfl⟩, ⟨e', rfl⟩, rfl, rfl⟩
  obtain ⟨-, x, x', hx, hx', hverdict⟩ := hconnect s s rfl
  refine ⟨body, body', x, x', hbody, hbody', hx, hx', ?_⟩
  obtain ⟨⟨e, he⟩, ⟨e', he'⟩, rfl, hnone⟩ | ⟨hconcur, htold⟩ := hverdict
  · refine ⟨.inl ⟨rfl, hnone⟩, fun _ _ => rfl, ?_⟩
    rw [he, he']
    trivial
  · exact ⟨.inr htold, fun least hleast => htold.lines_reaching hleast, hconcur⟩

/-- A client with a name and some password. -/
def entering (password : String) : Client :=
  make "1.0" none none (some (.login (.str "root") (.str password)))

end Client

/-- A server that grants a token, and then tells its version. -/
def Scene.welcoming : Scene :=
  Scene.start 0
    [⟨.response 200 [] ("\x7b\"jwt\":\"abc\"\x7d".toList.map fun c => c.toNat.toUInt8), 5, none⟩,
      ⟨.response 200 []
        ("\x7b\"server\":\"arango\",\"version\":\"3\",\"license\":\"community\"\x7d".toList.map
          fun c => c.toNat.toUInt8), 5, none⟩]

namespace Client

/-- Two passwords are told apart in the log of a login, in one line of the lowest level. -/
theorem login_overheard_specimen :
    ((entering "first").sessionOptions none none).credentials =
      .login (.str "root") (.str "first") ∧
    (entering "second").sessionOptions none none =
      { (entering "first").sessionOptions none none with
        credentials := .login (.str "root") (.str "second") } ∧
    ∃ body body' x x',
      Scene.welcoming.Leaves (((entering "first").connect .blocking "http://server" none none
        false).run .welcoming).2 x ∧
      Scene.welcoming.Leaves (((entering "second").connect .blocking "http://server" none none
        false).run .welcoming).2 x' ∧
      x.lines.length = 17 ∧ x.ToldApart body body' x' := by
  have hlogin : ((entering "first").sessionOptions none none).credentials =
      .login (.str "root") (.str "first") := rfl
  have hsame : (entering "second").sessionOptions none none =
      { (entering "first").sessionOptions none none with
        credentials := .login (.str "root") (.str "second") } := rfl
  refine ⟨hlogin, hsame, ?_⟩
  obtain ⟨body, body', x, x', -, -, hx, hx', htold, -, -⟩ :=
    login_overheard hlogin hsame .blocking "http://server" false .welcoming
  have hlines : x.lines.length = 17 := by
    have hlog := congrArg List.length hx.log
    rw [List.length_append] at hlog
    change _ = 0 + x.lines.length at hlog
    rw [Nat.zero_add] at hlog
    rw [← hlog]
    decide +kernel
  refine ⟨body, body', x, x', hx, hx', hlines, ?_⟩
  obtain ⟨-, hnone⟩ | htold := htold
  · -- two requests have been sent
    have hsent := congrArg List.length hx.sent
    rw [hnone] at hsent
    have htwo : (((entering "first").connect .blocking "http://server" none none
        false).run .welcoming).2.sent.length = 2 := by decide +kernel
    rw [htwo] at hsent
    cases hsent
  · exact htold

/-- **The password is in the log.** With the same name, the same settings and the same replies, two
clients that differ in their passwords make sessions, and leave logs behind that differ. -/
theorem login_logged :
    (entering "second").sessionOptions none none =
      { (entering "first").sessionOptions none none with
        credentials := .login (.str "root") (.str "second") } ∧
    (((entering "first").connect .blocking "http://server" none none false).run
      .welcoming).1.toOption.isSome ∧
    (((entering "second").connect .blocking "http://server" none none false).run
      .welcoming).1.toOption.isSome ∧
    ⟨.debug, "Request payload: '\x7b\"username\":\"root\",\"password\":\"first\"\x7d'"⟩ ∈
      (((entering "first").connect .blocking "http://server" none none false).run
        .welcoming).2.log ∧
    (((entering "second").connect .blocking "http://server" none none false).run .welcoming).2.log ≠
      (((entering "first").connect .blocking "http://server" none none false).run
        .welcoming).2.log := by
  refine ⟨rfl, ?_, ?_, ?_, ?_⟩ <;> decide +kernel

end Client

end AqlClient
