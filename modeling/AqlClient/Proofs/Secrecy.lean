import AqlClient.Collection
import AqlClient.Proofs.Cursor.InStep

/-!
# Sessions in step

Sessions may differ in secrets alone (`Session.Sibling`): in the values of headers that they hide,
and in the credentials. Then they go through sibling gateways, and so do their databases and
collections. Whatever is done in one of them is in step with the same in the other one.

Such sessions are made of settings that differ in secrets alone, because the credentials that come
of the settings may again take each other's place (`Client.inStep_connect`). Which headers are
secret, is said of the chain of overrides here: by then they are the ones that the sessions hide
(`Options.sibling_of_chain`).
-/

namespace AqlClient

variable {α : Type}

open Program (InStep)

/-! ### Settings -/

theorem OptionsOverride.Sibling.mono {secret secret' : String → Prop} {o o' : OptionsOverride}
    (h : o.Sibling secret o') (hsecret : ∀ name, secret name → secret' name) :
    o.Sibling secret' o' where
  callers := h.callers
  headers := match o.headers, o'.headers, h.headers with
    | _, _, .some hheaders => .some (hheaders.mono hsecret)
    | _, _, .none => .none
  redacted := h.redacted
  credentials := h.credentials
  defaultDatabase := h.defaultDatabase
  timeouts := h.timeouts

/-- **Chains that differ in their secrets alone** lead to settings that differ in hidden headers and
in credentials alone. -/
theorem Options.sibling_of_chain (release : String) {chain chain' : List OptionsOverride}
    (h : List.Forall₂ (OptionsOverride.Sibling (OptionsOverride.Secret chain)) chain chain') :
    ((standard release).overriddenByAll chain).Sibling
      (fun name => ((standard release).overriddenByAll chain).redacted.hides name = true)
      ((standard release).overriddenByAll chain') := by
  refine (Sibling.refl (standard release)).overriddenByAll
    (h.imp fun o o' ho => ho.mono fun name hname => ?_)
  exact (hides_overriddenByAll _ _ _).2 (.inr hname)

/-! ### Sessions -/

/-- **Sessions that differ in secrets alone:** in hidden headers and in credentials. -/
structure Session.Sibling (session session' : Session) : Prop where
  serial : session'.serial = session.serial
  mode : session'.mode = session.mode
  address : session'.address = session.address
  options : session.options.Sibling (fun name => session.options.redacted.hides name = true)
    session'.options
  credentials : session.credentials.Kin session'.credentials
  ownsTransport : session'.ownsTransport = session.ownsTransport

namespace Session.Sibling

variable {session session' : Session} (h : session.Sibling session')

include h

theorem gateway : session.gateway.Sibling session'.gateway := by
  unfold Session.gateway
  rw [h.mode, h.address]
  exact Gateway.toServer_sibling h.options h.credentials session.mode session.address

theorem limit (request timeout : Option Int) :
    session'.limit request timeout = session.limit request timeout := by
  unfold Session.limit
  rw [h.options.timeouts]

theorem report (text : String) : session'.report text = session.report text := by
  unfold Session.report
  rw [h.mode]

theorem inStep_close : InStep Eq session.close session'.close := by
  unfold Session.close
  rw [h.ownsTransport]
  split
  · exact .update _
  · exact .pure rfl

theorem inStep_request (method path : String) (payload : Value) (params : Entries)
    (requestLimit timeout : Option Int) :
    InStep Eq (session.request method path payload params requestLimit timeout)
      (session'.request method path payload params requestLimit timeout) := by
  unfold Session.request
  dsimp only
  rw [h.report, h.report, h.limit, h.mode]
  refine .andThen (.record _ _) fun _ => (h.gateway.inStep_request _ _).andThen fun envelope => ?_
  exact .andThen (.record _ _) fun _ => .pure rfl

/-- What is read from the answer to a request. -/
theorem inStep_reading {β : Type} (path : String) (requestLimit timeout : Option Int)
    (read : Entries → Except Failure β) :
    InStep Eq (do Program.ofExcept (read (← session.get path requestLimit timeout)))
      (do Program.ofExcept (read (← session'.get path requestLimit timeout))) :=
  (h.inStep_request _ _ _ _ _ _).andThen fun envelope => .ofExcept (read envelope)

theorem inStep_version (requestLimit timeout : Option Int) :
    InStep Eq (session.version requestLimit timeout) (session'.version requestLimit timeout) :=
  h.inStep_reading _ _ _ fun envelope => ServerVersion.ofValue (.dict envelope)

theorem inStep_accessibleDatabases (requestLimit timeout : Option Int) :
    InStep Eq (session.accessibleDatabases requestLimit timeout)
      (session'.accessibleDatabases requestLimit timeout) :=
  h.inStep_reading _ _ _ Session.namesOf

theorem inStep_allDatabases (requestLimit timeout : Option Int) :
    InStep Eq (session.allDatabases requestLimit timeout)
      (session'.allDatabases requestLimit timeout) :=
  h.inStep_reading _ _ _ Session.namesOf

end Session.Sibling

/-! ### Databases -/

/-- **Databases of one name,** of sessions that differ in secrets alone. -/
structure Database.Sibling (d d' : Database) : Prop where
  session : d.session.Sibling d'.session
  name : d'.name = d.name

/-- The databases of the sessions, of the same name or both by default. -/
theorem Session.Sibling.database {session session' : Session} (h : session.Sibling session')
    (name : Option String) :
    (Database.ofSession session name).Sibling (Database.ofSession session' name) where
  session := h
  name := by
    show name.getD session'.options.defaultDatabase = name.getD session.options.defaultDatabase
    rw [h.options.defaultDatabase]

namespace Database.Sibling

variable {d d' : Database} (h : d.Sibling d')

include h

theorem gateway : d.gateway.Sibling d'.gateway := by
  unfold Database.gateway
  rw [h.name]
  exact h.session.gateway.withPath _

theorem service : d'.service = d.service.through d'.gateway := by
  unfold Database.service QueryService.through
  rw [h.name, h.session.mode]

/-- What is read from the answer to a request between two lines in the log. -/
theorem inStep_reading {β : Type} (before after path : String) (params : Entries)
    (request timeout : Option Int) (read : Entries → Program β)
    (hread : ∀ envelope, InStep Eq (read envelope) (read envelope)) :
    InStep Eq
      (do d.session.report before
          let envelope ← d.get path params request timeout
          d.session.report after
          read envelope)
      (do d'.session.report before
          let envelope ← d'.get path params request timeout
          d'.session.report after
          read envelope) := by
  unfold Database.get
  rw [h.session.report, h.session.report, h.session.limit, h.session.mode]
  refine .andThen (.record _ _) fun _ => (h.gateway.inStep_request _ _).andThen fun envelope => ?_
  exact .andThen (.record _ _) fun _ => hread envelope

theorem inStep_info (request timeout : Option Int) :
    InStep Eq (d.info request timeout) (d'.info request timeout) := by
  unfold Database.info
  rw [h.name]
  exact h.inStep_reading _ _ _ _ _ _ _ fun envelope =>
    .andThen (.ofExcept _) fun fields => .ofExcept _

theorem inStep_collections (excludeSystem : Bool) (request timeout : Option Int) :
    InStep Eq (d.collections excludeSystem request timeout)
      (d'.collections excludeSystem request timeout) := by
  unfold Database.collections
  rw [h.name]
  exact h.inStep_reading _ _ _ _ _ _ _ fun envelope => .ofExcept _

/-- **A query leads to cursors** that differ in hidden headers alone. -/
theorem inStep_cursor (q : Query) (mapper : Mapper α) (request timeout : Option Int) :
    InStep Cursor.Sibling (d.cursor q mapper request timeout)
      (d'.cursor q mapper request timeout) := by
  have hservice : d.service.gateway.Sibling d'.gateway := h.gateway
  unfold Database.cursor
  rw [h.service, h.session.limit, h.session.options.timeouts]
  exact (QueryService.inStep_submit hservice q _).andThen fun first =>
    Cursor.inStep_opened hservice mapper _ _ first

/-- **A query comes to the same.** -/
theorem inStep_query (q : Query) (mapper : Mapper α) (general request timeout : Option Int) :
    InStep Eq (d.query q mapper general request timeout)
      (d'.query q mapper general request timeout) := by
  have hservice : d.service.gateway.Sibling d'.gateway := h.gateway
  unfold Database.query
  rw [h.service, h.session.options.timeouts]
  refine .byClock fun deadline => .byClock fun limit => ?_
  refine (QueryService.inStep_submit hservice q limit).andThen fun first => ?_
  refine (Cursor.inStep_opened hservice mapper _ _ first).bind ?_
  rintro c _ ⟨g, hg, rfl⟩
  exact Cursor.inStep_closing hg (.byClock fun rest => Cursor.inStep_toListWithin hg _)

end Database.Sibling

/-! ### Collections -/

namespace Collection

variable {d d' : Database} (h : d.Sibling d') (name : String)

include h

theorem inStep_info (request timeout : Option Int) :
    InStep Eq ((⟨d, name⟩ : Collection).info request timeout)
      ((⟨d', name⟩ : Collection).info request timeout) := by
  unfold info
  exact h.inStep_reading _ _ _ _ _ _ _ fun _ => .ofExcept _

theorem inStep_count (request timeout : Option Int) :
    InStep Eq ((⟨d, name⟩ : Collection).count request timeout)
      ((⟨d', name⟩ : Collection).count request timeout) := by
  unfold count
  exact h.inStep_reading _ _ _ _ _ _ _ fun _ => .ofExcept _

theorem inStep_all (batchSize : Value) (mapper : Mapper α) (request timeout : Option Int) :
    InStep Cursor.Sibling ((⟨d, name⟩ : Collection).all batchSize mapper request timeout)
      ((⟨d', name⟩ : Collection).all batchSize mapper request timeout) :=
  .andThen (.ofExcept _) fun q => h.inStep_cursor q mapper request timeout

end Collection

/-! ### Making sessions -/

/-- A session is made at the same place, whatever its secrets are. -/
theorem Session.inStep_opened {s s' : Options} {c c' : Credentials}
    (h : s.Sibling (fun name => s.redacted.hides name = true) s') (hc : c.Kin c') (mode : Mode)
    (address : String) (ownsTransport : Bool) :
    InStep Session.Sibling (opened mode address s c ownsTransport)
      (opened mode address s' c' ownsTransport) :=
  .andThen (.view fun _ => rfl) fun _ => .andThen (.update _) fun _ =>
    .pure ⟨rfl, rfl, rfl, h, hc, rfl⟩

namespace Client

/-- The overrides that the settings of a session are made of, from the client on. -/
def chain (base : Option OptionsOverride) (callers : Option (List Caller))
    (own : Option Credentials) (options : Option OptionsOverride)
    (credentials : Option Credentials) : List OptionsOverride :=
  base.toList ++ [{ credentialsOnly own with callers := callers }] ++
    (options.toList ++ [credentialsOnly credentials])

theorem sessionOptions_make (release : String) (base : Option OptionsOverride)
    (callers : Option (List Caller)) (own : Option Credentials) (options : Option OptionsOverride)
    (credentials : Option Credentials) :
    (make release base callers own).sessionOptions options credentials =
      (Options.standard release).overriddenByAll (chain base callers own options credentials) :=
  List.foldl_append.symm

section Siblings

variable {s s' : Options} (h : s.Sibling (fun name => s.redacted.hides name = true) s')
  (mode : Mode) (address : String) (ownsTransport : Bool) (deadline : Deadline)

include h

/-- **A login is exchanged for the same token,** and other credentials are used as they are. -/
theorem inStep_settledCredentials :
    InStep Credentials.Kin (settledCredentials mode address s deadline)
      (settledCredentials mode address s' deadline) := by
  have hgateway := Gateway.toServer_sibling h h.credentials mode address
  have hkin := h.credentials
  unfold settledCredentials
  rw [h.timeouts]
  generalize s.credentials = c at *
  generalize s'.credentials = c' at *
  cases hkin with
  | basic | bearer => exact .pure (by constructor)
  | same c =>
    cases c with
    | login username password =>
      refine .byClock fun limit => .andThen (.record _ _) fun _ => ?_
      refine (hgateway.inStep_request _ _).andThen fun envelope => ?_
      refine .andThen (.record _ _) fun _ => ?_
      exact .andThen (.ofExcept _) fun token => .pure (.same _)
    | _ => exact .pure (.same _)

/-- The server tells the same version. -/
theorem inStep_establish :
    InStep (fun x x' => x.1.Sibling x'.1 ∧ x'.2 = x.2)
      (establish mode address s ownsTransport deadline)
      (establish mode address s' ownsTransport deadline) := by
  unfold establish
  refine (inStep_settledCredentials h mode address deadline).bind fun c c' hc => ?_
  refine (Session.inStep_opened h hc mode address ownsTransport).bind fun session session' hs => ?_
  rw [hs.report, hs.address, h.timeouts]
  refine .andThen (.record _ _) fun _ => .byClock fun limit => ?_
  refine (hs.gateway.inStep_request _ _).andThen fun envelope => ?_
  exact .andThen (.ofExcept _) fun version => .pure ⟨hs, rfl⟩

end Siblings

/-- **Clients whose settings differ in secrets alone make such sessions,** or none. -/
theorem inStep_connect {client client' : Client} {options options' : Option OptionsOverride}
    {credentials credentials' : Option Credentials}
    (h : (client.sessionOptions options credentials).Sibling
      (fun name => (client.sessionOptions options credentials).redacted.hides name = true)
      (client'.sessionOptions options' credentials'))
    (mode : Mode) (address : String) (ownsTransport : Bool) :
    InStep Session.Sibling (client.connect mode address credentials options ownsTransport)
      (client'.connect mode address credentials' options' ownsTransport) := by
  unfold connect
  dsimp only
  rw [h.timeouts]
  refine .byClock fun deadline => ?_
  refine (inStep_establish h mode address ownsTransport deadline).attempt.bind fun r r' hr => ?_
  cases hr with
  | @ok made made' hmade =>
    obtain ⟨session, version⟩ := made
    obtain ⟨session', version'⟩ := made'
    obtain ⟨hs, rfl : version' = version⟩ := hmade
    dsimp only
    rw [hs.report, hs.address]
    exact .andThen (.record _ _) fun _ => .pure hs
  | error e =>
    cases ownsTransport with
    | true => exact .andThen (.update _) fun _ => .throw e
    | false => exact .throw e

end Client

end AqlClient
