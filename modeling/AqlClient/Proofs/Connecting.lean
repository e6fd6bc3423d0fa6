import AqlClient.Proofs.Authorization
import AqlClient.Proofs.Cursor.Addresses
import AqlClient.Proofs.Deadline
import AqlClient.Proofs.Payload
import AqlClient.Proofs.Program.Doings
import AqlClient.Proofs.Sessions

/-!
# Making a session

A session is made by one or two exchanges (`Handshake`). A login is sent first if the credentials
call for it. Then the server is asked for its version, with the credentials or with the token that
the login has yielded: without a token, or once the deadline has passed, nothing more is sent.

`Client.connect_handshake` says this of all clients and all arguments whose types are as they should
be (`OptionsOverride.Proper`), whatever comes back from the exchanges and however long they take.
Whenever a session cannot be made, a transport that was made for it is closed once; no other
transport is closed.
-/

namespace AqlClient

/-! ### Arguments -/

/-- Nothing or a number of milliseconds, which is not negative. -/
def Value.Milliseconds (v : Value) : Prop := ∃ ms, v.Limits ms

/-- What a login sends are texts. -/
def Credentials.Proper : Credentials → Prop
  | .login username password => ∃ u p, username = .str u ∧ password = .str p
  | _ => True

/-- **Overrides whose types are as they should be,** with limits that are not negative. -/
structure OptionsOverride.Proper (o : OptionsOverride) : Prop where
  credentials : ∀ c, o.credentials = some c → c.Proper
  timeouts : ∀ t, o.timeouts = some t → ∀ v, t.request = some v ∨ t.general = some v →
    v.Milliseconds

/-- Settings whose types are as they should be. -/
structure Options.Proper (s : Options) : Prop where
  credentials : s.credentials.Proper
  request : s.timeouts.request.Milliseconds
  general : s.timeouts.general.Milliseconds

namespace Options.Proper

variable {s : Options}

theorem overriddenBy (h : s.Proper) {o : OptionsOverride} (ho : o.Proper) :
    (s.overriddenBy o).Proper := by
  refine ⟨?_, ?_, ?_⟩
  · show (o.credentials.getD s.credentials).Proper
    cases hc : o.credentials with
    | none => exact h.credentials
    | some c => exact ho.credentials c hc
  · show ((o.timeouts.map s.timeouts.overriddenBy).getD s.timeouts).request.Milliseconds
    cases ht : o.timeouts with
    | none => exact h.request
    | some t =>
      show (t.request.getD s.timeouts.request).Milliseconds
      cases hv : t.request with
      | none => exact h.request
      | some v => exact ho.timeouts t ht v (.inl hv)
  · show ((o.timeouts.map s.timeouts.overriddenBy).getD s.timeouts).general.Milliseconds
    cases ht : o.timeouts with
    | none => exact h.general
    | some t =>
      show (t.general.getD s.timeouts.general).Milliseconds
      cases hv : t.general with
      | none => exact h.general
      | some v => exact ho.timeouts t ht v (.inr hv)

theorem overriddenByAll (h : s.Proper) {chain : List OptionsOverride}
    (hchain : ∀ o ∈ chain, o.Proper) : (s.overriddenByAll chain).Proper := by
  induction chain generalizing s with
  | nil => exact h
  | cons o chain ih =>
    exact ih (h.overriddenBy (hchain o List.mem_cons_self))
      fun o' ho' => hchain o' (List.mem_cons_of_mem o ho')

theorem standard (release : String) : (Options.standard release).Proper :=
  ⟨trivial, ⟨10000, .int (by decide)⟩, ⟨30000, .int (by decide)⟩⟩

end Options.Proper

/-- **The settings of a session are as they should be** if all arguments are. -/
theorem Client.proper_sessionOptions (release : String) {base options : Option OptionsOverride}
    {own credentials : Option Credentials} (hbase : ∀ o, base = some o → o.Proper)
    (hown : ∀ c, own = some c → c.Proper) (hoptions : ∀ o, options = some o → o.Proper)
    (hcredentials : ∀ c, credentials = some c → c.Proper) (callers : Option (List Caller)) :
    ((make release base callers own).sessionOptions options credentials).Proper := by
  have honly : ∀ {c? : Option Credentials}, (∀ c, c? = some c → c.Proper) →
      ∀ callers, ({ credentialsOnly c? with callers := callers } : OptionsOverride).Proper :=
    fun hc _ => ⟨hc, fun _ ht => by cases ht⟩
  have hchain : ∀ {o? : Option OptionsOverride} {o' : OptionsOverride},
      (∀ o, o? = some o → o.Proper) → o'.Proper → ∀ o ∈ o?.toList ++ [o'], o.Proper := by
    intro o? o' ho? ho' o ho
    obtain ho | ho := List.mem_append.1 ho
    · exact ho? o (Option.mem_toList.1 ho)
    · exact List.mem_singleton.1 ho ▸ ho'
  have hclient : (make release base callers own).options.Proper :=
    (Options.Proper.standard release).overriddenByAll (hchain hbase (honly hown callers))
  exact hclient.overriddenByAll (hchain hoptions (honly hcredentials none))

/-! ### The requests -/

/-- **The request of a login:** it authorizes itself by its payload alone, unless further headers
say something else. -/
structure Request.LogsIn (address : String) (settings : Options) (q : Request) : Prop where
  method : q.method = "POST"
  url : q.url = Url.extended (Url.base (Url.trimEnd address) "") (some Resource.login)
  payload : ∃ username password, settings.credentials = .login username password ∧
    (Value.dict (Credentials.loginPayload username password)).encodePayload = .ok q.body
  headers : q.headers.Authorize settings.headers none

/-- **The request for the version,** with given credentials unless further headers say something
else. -/
structure Request.Probes (address : String) (settings : Options) (own : Option String)
    (q : Request) : Prop where
  method : q.method = "GET"
  url : q.url = Url.extended (Url.base (Url.trimEnd address) "") (some Resource.version)
  body : q.body = none
  headers : q.headers.Authorize settings.headers own

/-- **The answer to a login yields a token:** there is a text by its name, which is not empty. -/
def Exchange.Yields (e : Exchange) (token : String) : Prop :=
  ∃ response envelope, e.reply = .ok response ∧
    Envelope.read response (some (e.request.method ++ " " ++ e.request.url)) = .ok envelope ∧
    envelope.get? "jwt" = some (.str token) ∧ token ≠ ""

/-- A reply is back before the deadline that began with its request, if there is any. -/
def Exchange.InTime (e : Exchange) (limit : Value) : Prop :=
  ∃ ms, limit.Limits ms ∧ (ms = 0 ∨ e.elapsed < ms)

/-- **The exchanges by which a session is made,** as far as they go. -/
inductive Handshake (address : String) (settings : Options) : List Exchange → Prop
  | probed {e : Exchange} : settings.credentials.kind ≠ .login →
      e.request.Probes address settings settings.credentials.header →
      Handshake address settings [e]
  | refused {e : Exchange} : settings.credentials.kind = .login →
      e.request.LogsIn address settings →
      (∀ token, e.Yields token → ¬ e.InTime settings.timeouts.general) →
      Handshake address settings [e]
  | granted {e e' : Exchange} {token : String} : settings.credentials.kind = .login →
      e.request.LogsIn address settings → e.Yields token →
      e.InTime settings.timeouts.general →
      e'.request.Probes address settings (some ("Bearer " ++ token)) →
      Handshake address settings [e, e']

/-! ### The login -/

theorem Value.Limits.unique {v : Value} {ms ms' : Int} (h : v.Limits ms) (h' : v.Limits ms') :
    ms = ms' := by
  obtain ⟨-, rfl | ⟨rfl, rfl⟩⟩ := h
  · obtain ⟨-, heq | ⟨heq, -⟩⟩ := h'
    · exact Value.int.inj heq
    · cases heq
  · obtain ⟨-, heq | ⟨-, rfl⟩⟩ := h'
    · cases heq
    · rfl

/-- **The token of a login** is a text that is not empty. -/
theorem Client.tokenOf_ok_iff {envelope : Entries} {token : String} :
    tokenOf envelope = .ok token ↔ envelope.get? "jwt" = some (.str token) ∧ token ≠ "" := by
  have hread : envelope.required "jwt" [.str] Value.str? = .ok token ↔
      envelope.get? "jwt" = some (.str token) := by
    unfold Entries.required Entries.optional
    cases hjwt : envelope.get? "jwt" with
    | none => simp
    | some v => cases v <;> simp [Value.str?]
  unfold tokenOf
  constructor
  · intro h
    obtain ⟨t, ht, h⟩ := bind_ok h
    dsimp only at h
    split at h
    case isTrue => cases h
    case isFalse hne =>
      cases h
      exact ⟨hread.1 ht, fun hempty => hne (String.isEmpty_iff.2 hempty)⟩
  · rintro ⟨hjwt, hne⟩
    have hfalse : ¬ token.isEmpty = true := fun hempty => hne (String.isEmpty_iff.1 hempty)
    rw [hread.2 hjwt]
    show (if token.isEmpty = true then _ else _ : Except Failure String) = _
    rw [if_neg hfalse]
    rfl

/-- An answer yields the token that is read from it. -/
theorem Exchange.yields_iff {g : Gateway} {call : Call} {body : Option String}
    {reply : Except Failure Response} {elapsed : Int} {token : String} :
    (⟨g.requestFor call body, reply, elapsed⟩ : Exchange).Yields token ↔
      ∃ envelope, g.reading call reply = .ok envelope ∧ Client.tokenOf envelope = .ok token := by
  unfold Yields
  simp only [Client.tokenOf_ok_iff]
  constructor
  · rintro ⟨response, envelope, rfl, hread, htoken⟩
    exact ⟨envelope, hread, htoken⟩
  · rintro ⟨envelope, hread, htoken⟩
    cases reply with
    | error e => cases hread
    | ok response => exact ⟨response, envelope, rfl, hread, htoken⟩

/-- A login can be written. -/
theorem Credentials.encodePayload_login (u p : String) :
    ∃ text, (Value.dict (loginPayload (.str u) (.str p))).encodePayload = .ok (some text) := by
  have hplain : (Value.dict (loginPayload (.str u) (.str p))).Plain := by
    have hdistinct : ["username", "password"].Nodup := by decide
    refine .dict [("username", .str u), ("password", .str p)] hdistinct fun field hfield => ?_
    obtain rfl | rfl : field = ("username", .str u) ∨ field = ("password", .str p) := by
      simpa using hfield
    · exact .str u
    · exact .str p
  obtain ⟨cs, j, hback⟩ := hplain.readsBack
  refine ⟨String.ofList cs, ?_⟩
  unfold Value.encodePayload Value.write
  dsimp only
  rw [hback.written]
  rfl

namespace Client

variable {mode : Mode} {address : String} {settings : Options} {deadline : Deadline} {ms cap : Int}
  {start : Int} {w : Doings} {s : Scene}

/-- **What comes of the credentials of the settings,** up to some time: they are used as they are,
or they have been exchanged for a token. -/
inductive Settled (address : String) (settings : Options) (start : Int) :
    Except Failure Credentials → List Exchange → Int → Prop
  | kept : settings.credentials.kind ≠ .login →
      Settled address settings start (.ok settings.credentials) [] start
  | granted {e : Exchange} {token : String} : settings.credentials.kind = .login →
      e.request.LogsIn address settings → e.Yields token →
      Settled address settings start (.ok (.bearer (.str token))) [e] (start + e.elapsed)
  | refused {e : Exchange} {failure : Failure} {now : Int} : settings.credentials.kind = .login →
      e.request.LogsIn address settings → (∀ token, ¬ e.Yields token) →
      Settled address settings start (.error failure) [e] now

namespace Settled

variable {c : Credentials} {exchanges : List Exchange} {now : Int}

/-- In time, the request for the version completes the handshake. -/
theorem probed (h : Settled address settings start (.ok c) exchanges now)
    (hlimit : settings.timeouts.general.Limits ms) (htime : 0 < ms → now < start + ms)
    {e : Exchange} (hprobes : e.request.Probes address settings c.header) :
    Handshake address settings (exchanges ++ [e]) := by
  cases h with
  | kept hkind => exact .probed hkind hprobes
  | granted hkind hlogin hyields =>
    refine .granted hkind hlogin hyields ⟨ms, hlimit, ?_⟩ hprobes
    have hms := hlimit.1
    omega

/-- Once the deadline has passed, the login has been in vain. -/
theorem overdue (h : Settled address settings start (.ok c) exchanges now)
    (hlimit : settings.timeouts.general.Limits ms) (hpos : 0 < ms) (hlate : start + ms ≤ now) :
    Handshake address settings exchanges := by
  cases h with
  | kept _ => omega
  | granted hkind hlogin _ =>
    refine .refused hkind hlogin fun token _ hin => ?_
    obtain ⟨ms', hlimit', htime⟩ := hin
    rw [← hlimit.unique hlimit'] at htime
    omega

/-- Without a token nothing more is sent. -/
theorem failed {failure : Failure}
    (h : Settled address settings start (.error failure) exchanges now) :
    Handshake address settings exchanges := by
  cases h with
  | refused hkind hlogin hnone =>
    exact .refused hkind hlogin fun token hyields => absurd hyields (hnone token)

end Settled

/-- The call of a login, of which the payload can be written. -/
theorem logsIn_requestFor (address : String) (hnodup : (settings.headers.map Prod.fst).Nodup)
    {username password : Value} (hlogin : settings.credentials = .login username password)
    {body : Option String}
    (hbody : (Value.dict (Credentials.loginPayload username password)).encodePayload = .ok body)
    (mode : Mode) (limit : TimeLimit) :
    ((Gateway.toServer mode address settings settings.credentials).requestFor
      ⟨"POST", .dict (Credentials.loginPayload username password), some Resource.login, [], limit⟩
      body).LogsIn address settings where
  method := rfl
  url := rfl
  payload := ⟨username, password, hlogin, hbody⟩
  headers := by
    have hauthorize := Gateway.toServer_authorize hnodup mode address settings.credentials
    rw [hlogin] at hauthorize ⊢
    exact hauthorize

/-- **The credentials are settled** with one exchange if they call for a login, else with none. -/
theorem wp_settledCredentials (hproper : settings.Proper)
    (hnodup : (settings.headers.map Prod.fst).Nodup)
    (hlimit : settings.timeouts.general.Limits ms) (huntil : deadline.Until s.now ms)
    (hw : w.exchanges = []) :
    (settledCredentials mode address settings deadline).wp .watched
      (fun r w' s' => Settled address settings s.now r w'.exchanges s'.now ∧
        w'.closesBy s' = w.closesBy s) w s := by
  unfold settledCredentials
  split
  case h_1 username password hlogin =>
    have hkind : settings.credentials.kind = .login := by
      rw [hlogin]
      rfl
    obtain ⟨cap, hcap⟩ := hproper.request
    refine Program.wp_byClock (fun limit _ => ?_) fun e he => ?_
    · have hcredentials := hproper.credentials
      rw [hlogin] at hcredentials
      obtain ⟨u, p, rfl, rfl⟩ := hcredentials
      obtain ⟨text, htext⟩ := Credentials.encodePayload_login u p
      unfold Program.record
      rw [Program.wp_update_bind]
      have hrequest := logsIn_requestFor address hnodup hlogin htext mode limit
      refine Program.wp_seq (Gateway.wp_request_watched rfl htext) ?_ ?_
      · rintro envelope w' s' ⟨reply, hread, elapsed, hexchanges, hnow, hcloses⟩
        rw [Program.wp_update_bind, Program.wp_bind, Program.wp_ofExcept]
        rw [hw, List.nil_append] at hexchanges
        cases htoken : tokenOf envelope with
        | ok token =>
          refine ⟨?_, hcloses⟩
          show Settled address settings s.now (.ok (.bearer (.str token))) w'.exchanges s'.now
          rw [hexchanges, hnow]
          exact .granted hkind hrequest (Exchange.yields_iff.2 ⟨envelope, hread.symm, htoken⟩)
        | error failure =>
          refine ⟨?_, hcloses⟩
          show Settled address settings s.now (.error failure) w'.exchanges s'.now
          rw [hexchanges]
          refine .refused hkind hrequest fun token hyields => ?_
          obtain ⟨envelope', hread', htoken'⟩ := Exchange.yields_iff.1 hyields
          rw [← hread] at hread'
          cases hread'
          rw [htoken] at htoken'
          cases htoken'
      · rintro failure w' s' ⟨reply, hread, elapsed, hexchanges, -, hcloses⟩
        refine ⟨?_, hcloses⟩
        rw [hexchanges, hw]
        refine .refused hkind hrequest fun token hyields => ?_
        obtain ⟨envelope, hread', -⟩ := Exchange.yields_iff.1 hyields
        rw [← hread] at hread'
        cases hread'
    · -- no time has passed yet
      obtain ⟨⟨hpos, hlate⟩, -⟩ := huntil.refused hcap hlimit.1 he
      omega
  case h_2 c hc =>
    refine ⟨?_, rfl⟩
    show Settled address settings s.now (.ok settings.credentials) w.exchanges s.now
    rw [hw]
    refine .kept fun hkind => ?_
    cases hcredentials : settings.credentials with
    | login username password => exact hc username password hcredentials
    | anonymous => rw [hcredentials] at hkind; cases hkind
    | basic username password => rw [hcredentials] at hkind; cases hkind
    | bearer token => rw [hcredentials] at hkind; cases hkind

/-! ### The version -/

/-- The request for the version in a session. -/
theorem probes_requestFor (address : String) (hnodup : (settings.headers.map Prod.fst).Nodup)
    (mode : Mode) (c : Credentials) (limit : TimeLimit) :
    ((Gateway.toServer mode (Url.trimEnd address) settings c).requestFor
      ⟨"GET", .null, some Resource.version, [], limit⟩ none).Probes address settings c.header where
  method := rfl
  url := by
    show Url.extended (Url.base (Url.trimEnd (Url.trimEnd address)) "") (some Resource.version) = _
    rw [Url.trimEnd_trimEnd]
  body := rfl
  headers := Gateway.toServer_authorize hnodup mode (Url.trimEnd address) c

/-- **What asking for the version comes to,** in a new session: one more exchange, and that session
if it went well. -/
def Probed (address : String) (session : Session) (w : Doings) (s : Scene)
    (r : Except Failure (Session × ServerVersion)) (w' : Doings) (s' : Scene) : Prop :=
  ∃ e : Exchange, w'.exchanges = w.exchanges ++ [e] ∧
    e.request.Probes address session.options session.credentials.header ∧
    e.request.headers = session.gateway.fullHeaders ∧ w'.closesBy s' = w.closesBy s ∧
    ∀ made, r = .ok made → made.1 = session

theorem wp_probe {session : Session} (hnodup : (session.options.headers.map Prod.fst).Nodup)
    (haddress : session.address = Url.trimEnd address) (limit : TimeLimit) :
    (do let envelope ← session.gateway.request session.mode
          ⟨"GET", .null, some Resource.version, [], limit⟩
        let version ← Program.ofExcept (ServerVersion.ofValue (.dict envelope))
        return (session, version)).wp .watched (Probed address session w s) w s := by
  have hrequest := probes_requestFor address hnodup session.mode session.credentials limit
  rw [← haddress] at hrequest
  refine Program.wp_seq (Gateway.wp_request_watched rfl rfl) ?_ ?_
  · rintro envelope w' s' ⟨reply, -, elapsed, hexchanges, -, hcloses⟩
    rw [Program.wp_bind, Program.wp_ofExcept]
    cases ServerVersion.ofValue (.dict envelope) with
    | ok version =>
      refine ⟨_, hexchanges, hrequest, rfl, hcloses, ?_⟩
      rintro _ ⟨⟩
      rfl
    | error failure =>
      exact ⟨_, hexchanges, hrequest, rfl, hcloses, fun made hmade => by cases hmade⟩
  · rintro failure w' s' ⟨reply, -, elapsed, hexchanges, -, hcloses⟩
    exact ⟨_, hexchanges, hrequest, rfl, hcloses, fun made hmade => by cases hmade⟩

/-! ### Both together -/

/-- **What establishing a session comes to.** Nothing is closed, and a session that is made has sent
the latest request. -/
structure Established (address : String) (settings : Options) (ownsTransport : Bool)
    (r : Except Failure (Session × ServerVersion)) (w : Doings) (s : Scene) : Prop where
  handshake : Handshake address settings w.exchanges
  closes : w.closesBy s = 0
  session : ∀ made, r = .ok made → made.1.ownsTransport = ownsTransport ∧
    ∃ e, w.exchanges.getLast? = some e ∧ e.request.headers = made.1.gateway.fullHeaders

theorem wp_establish {ownsTransport : Bool} (hproper : settings.Proper)
    (hnodup : (settings.headers.map Prod.fst).Nodup)
    (hlimit : settings.timeouts.general.Limits ms) (huntil : deadline.Until s.now ms) :
    (establish mode address settings ownsTransport deadline).wp .watched
      (Established address settings ownsTransport) (.none s) s := by
  obtain ⟨cap, hcap⟩ := hproper.request
  unfold establish
  refine Program.wp_seq (wp_settledCredentials hproper hnodup hlimit huntil rfl) ?_ ?_
  · rintro c w s₁ ⟨hsettled, hcloses⟩
    rw [Doings.closesBy_none] at hcloses
    unfold Session.opened Session.report Program.record
    rw [Program.wp_bind, Program.wp_view_bind, Program.wp_update_bind, Program.wp_pure,
      Program.chain_ok, Program.wp_update_bind]
    refine Program.wp_byClock (fun limit hgranted => ?_) fun failure hrefused => ?_
    · refine Program.wp_mono (wp_probe hnodup rfl limit) ?_
      rintro r w' s' ⟨e, hexchanges, hprobes, hheaders, hcloses', hmade⟩
      have hintime := (huntil.granted hcap hlimit.1 hgranted).within
      refine ⟨?_, hcloses'.trans hcloses, ?_⟩
      · rw [hexchanges]
        exact hsettled.probed hlimit (fun hpos => (hintime hpos).1) hprobes
      · intro made hr
        rw [hmade made hr]
        refine ⟨rfl, e, ?_, hheaders⟩
        rw [hexchanges]
        exact List.getLast?_concat
    · obtain ⟨⟨hpos, hlate⟩, -⟩ := huntil.refused hcap hlimit.1 hrefused
      exact ⟨hsettled.overdue hlimit hpos hlate, hcloses, fun made hmade => by cases hmade⟩
  · rintro failure w s₁ ⟨hsettled, hcloses⟩
    rw [Doings.closesBy_none] at hcloses
    exact ⟨hsettled.failed, hcloses, fun made hmade => by cases hmade⟩

/-! ### Making a session -/

/-- **A session has been made.** -/
structure Open (ownsTransport : Bool) (session : Session) (w : Doings) (s : Scene) : Prop where
  /-- No transport has been closed so far. -/
  closes : w.closesBy s = 0
  /-- Closing the session closes the transport if that was made for the session. -/
  closing : ∀ s' : Scene,
    session.close.run s' = (.ok (), if ownsTransport then s'.closeTransport else s')
  /-- The latest request has carried the headers of the session. -/
  probed : ∃ e, w.exchanges.getLast? = some e ∧ e.request.headers = session.gateway.fullHeaders
  /-- All further requests in the session carry the same headers. -/
  constant : ∀ (β : Type) (p : Program β), session.Uses p → ∀ s',
    p.Sends (fun _ q => q.headers = session.gateway.fullHeaders) s'

/-- **What making a session comes to.** -/
structure Connected (address : String) (settings : Options) (ownsTransport : Bool)
    (r : Except Failure Session) (w : Doings) (s : Scene) : Prop where
  handshake : Handshake address settings w.exchanges
  /-- Whatever goes wrong, a transport that was made for the session is closed once, and no other
  one is closed. -/
  failed : ∀ failure, r = .error failure → w.closesBy s = if ownsTransport then 1 else 0
  made : ∀ session, r = .ok session → Open ownsTransport session w s

/-- **Making a session** takes a login where the credentials call for one, and then a request for
the version unless the login yields no token in time. Whatever happens meanwhile, the transport is
closed exactly if this fails and it was made for the session. On its own, this is what is found in
the history and in the count of closed transports. -/
theorem connect_handshake (release : String) (base options : Option OptionsOverride)
    (own credentials : Option Credentials) (hbase : ∀ o, base = some o → o.Proper)
    (hown : ∀ c, own = some c → c.Proper) (hoptions : ∀ o, options = some o → o.Proper)
    (hcredentials : ∀ c, credentials = some c → c.Proper) (callers : Option (List Caller))
    (mode : Mode) (address : String) (ownsTransport : Bool) (s : Scene) :
    ((make release base callers own).connect mode address credentials options ownsTransport).wp .watched
      (Connected address ((make release base callers own).sessionOptions options credentials) ownsTransport)
      (.none s) s ∧
    ∃ r s', ((make release base callers own).connect mode address credentials options ownsTransport).run s =
        (r, s') ∧
      ∃ w : Doings, Connected address ((make release base callers own).sessionOptions options credentials)
          ownsTransport r w s' ∧
        s'.sent = s.sent ++ w.exchanges.map Exchange.request ∧
        s'.closes = s.closes + w.closesBy s' := by
  suffices hwp : ((make release base callers own).connect mode address credentials options
      ownsTransport).wp .watched (Connected address
        ((make release base callers own).sessionOptions options credentials) ownsTransport) (.none s) s from
    ⟨hwp, _, _, rfl, Program.run_watched hwp⟩
  have hproper := proper_sessionOptions release hbase hown hoptions hcredentials callers
  have hnodup := nodup_sessionOptions release base callers own credentials options
  unfold connect
  dsimp only
  generalize (make release base callers own).sessionOptions options credentials = settings at *
  obtain ⟨ms, hlimit⟩ := hproper.general
  refine Program.wp_byClock (fun deadline hdeadline => ?_) fun failure hfailure => ?_
  · have huntil := Deadline.until_starting hlimit hdeadline
    rw [Program.wp_attempt_bind]
    refine Program.wp_mono (wp_establish hproper hnodup hlimit huntil) fun r w s₁ h => ?_
    cases r with
    | ok made =>
      obtain ⟨howns, hprobed⟩ := h.session made rfl
      refine ⟨h.handshake, fun failure hr => (by cases hr), ?_⟩
      rintro _ ⟨⟩
      refine ⟨h.closes, fun s' => ?_, hprobed, fun β p hp s' => hp.headers s'⟩
      unfold Session.close
      rw [howns]
      cases ownsTransport with
      | true => rfl
      | false => rfl
    | error failure =>
      cases ownsTransport with
      | true =>
        refine ⟨h.handshake, fun _ _ => ?_, fun session hr => by cases hr⟩
        show w.closesBy s₁.closeTransport = 1
        rw [w.closesBy_closeTransport, h.closes]
        rfl
      | false => exact ⟨h.handshake, fun _ _ => h.closes, fun session hr => by cases hr⟩
  · -- a number of milliseconds can limit a method
    obtain ⟨deadline, hdeadline⟩ := Deadline.starting_ok hlimit s.now (some generalTimeoutLabel)
    rw [hdeadline] at hfailure
    cases hfailure

end Client

/-- A server that grants a token at once, and then does not accept it. -/
def Scene.locked : Scene :=
  Scene.start 0
    [⟨.response 200 [] ("\x7b\"jwt\":\"abc\"\x7d".toList.map fun c => c.toNat.toUInt8), 5, none⟩,
      ⟨.response 401 [] [], 5, none⟩]

/-- A client with a name and a password. -/
def Client.specimen : Client := make "1.0" none none (some (.login (.str "root") (.str "openSesame")))

/-- A login is exchanged for a token, and the transport is closed when it turns out to be useless.
-/
theorem Client.connect_handshake_specimen : ∃ r s',
    (specimen.connect .blocking "http://server" none none true).run .locked = (r, s') ∧
    s'.sent.map (fun q => (q.method, q.url, Named.get? q.headers credentialsHeader)) =
      [("POST", "http://server/_open/auth", none),
        ("GET", "http://server/_api/version", some "Bearer abc")] ∧
    s'.closes = 1 ∧
    ∃ w : Doings, Connected "http://server" (specimen.sessionOptions none none) true r w s' := by
  have hown : ∀ c, some (Credentials.login (.str "root") (.str "openSesame")) = some c →
      c.Proper := by
    rintro _ ⟨⟩
    exact ⟨"root", "openSesame", rfl, rfl⟩
  obtain ⟨-, r, s', hrun, w, hconnected, -, -⟩ := connect_handshake "1.0" none none _ none
    (fun _ h => by cases h) hown (fun _ h => by cases h) (fun _ h => by cases h) none .blocking
    "http://server" true .locked
  have hend : s' = _ := (congrArg Prod.snd hrun).symm
  refine ⟨r, s', hrun, ?_, ?_, w, hconnected⟩
  · rw [hend]
    decide +kernel
  · rw [hend]
    decide +kernel

end AqlClient
