import AqlClient.Client
import AqlClient.Proofs.Cursor.Sending
import AqlClient.Proofs.Deadline

/-!
# Methods of several requests keep to their deadline

A method of several requests is started at some time and limited to a number of milliseconds, if to
any. Each of its requests is sent before the deadline passes, and may take no longer than what is
left; the limit for a single request holds as well (`Request.Bounded`). This is shown of the methods
that read a cursor to its end (`Cursor.OnTime`), of a query that is read as a whole
(`Database.QueryOnTime`), for which one deadline is handed on to another one, and of making a
session (`Client.ConnectOnTime`).

What the method is about meanwhile is of no concern: how long the exchanges take, what is made of
the items and how long that takes, and what the functions do that are called on them. Only their
requests have to be told apart from those of the method.

Apart from releases, what such a method sends comes of a fetch that it is at (`Cursor.AtFetch`,
`Database.AtFetch`). A fetch that is due once the deadline has passed sends nothing, and the method
fails (`Program.TimesOut`). Of a cursor that is closed behind the failure, the release is sent;
where the release fails in a way that the client does not report, that failure takes the place of
the timeout (`Cursor.toList_broken_off`).
-/

namespace AqlClient

variable {α β : Type} {c : Cursor α} {may : Int → Request → Prop} {s : Scene}
  {started ms cap : Int} {pace : Scene → Int}

/-! ### Bounded requests -/

/-- **The rest of a deadline** at some time, as a number of milliseconds. -/
structure Deadline.Rest (started ms later left : Int) : Prop where
  unlimited : ms = 0 → left = 0
  within : 0 < ms → 0 < left ∧ later + left ≤ started + ms

/-- What is granted under the rest of a deadline is granted under the deadline. -/
theorem Value.Granted.of_rest {v : Value} {later left now : Int} (h : v.Granted later left cap now)
    (hrest : Deadline.Rest started ms later left) : v.Granted started ms cap now where
  unlimited hzero := h.unlimited (hrest.unlimited hzero)
  within hpos := by
    obtain ⟨hleft, hends⟩ := hrest.within hpos
    obtain ⟨hnow, taken, hv, htaken, hmost, hcap⟩ := h.within hleft
    exact ⟨by omega, taken, hv, htaken, by omega, hcap⟩

/-- What is left of a deadline is the limit for the rest of a method. -/
theorem Deadline.Until.rest {d : Deadline} {now : Int} {limit : TimeLimit} (h : d.Until started ms)
    (hms : 0 ≤ ms) (hlimit : d.remaining now .null none = .ok limit) :
    ∃ left, ((limiting limit.request).getD (.int 0)).Limits left ∧ Rest started ms now left := by
  have hgranted := h.granted .null hms hlimit
  by_cases hzero : ms = 0
  · refine ⟨0, ?_, fun _ => rfl, fun hpos => by omega⟩
    rw [hgranted.unlimited hzero]
    exact .int (Int.le_refl 0)
  · obtain ⟨-, left, hleft, hpos, hmost, -⟩ := hgranted.within (by omega)
    refine ⟨left, ?_, fun h => absurd h hzero, fun _ => ⟨hpos, by omega⟩⟩
    rw [hleft, (Value.Limits.int (Int.le_of_lt hpos)).limiting_pos hpos]
    exact .int (Int.le_of_lt hpos)

/-- A request that releases nothing is bounded by what it is granted. -/
theorem Request.bounded_of_granted {g : Gateway} {call : Call} {body : Option String} {now : Int}
    (hmethod : call.method ≠ "DELETE") (h : call.limit.request.Granted started ms cap now) :
    Request.Bounded started ms cap now (g.requestFor call body) := by
  have hother : ¬ (g.requestFor call body).method = "DELETE" := hmethod
  unfold Bounded
  rw [if_neg hother]
  show call.limit.attached.request.Granted started ms cap now
  rw [TimeLimit.attached_request]
  exact h

namespace Cursor

variable (hcap : c.requestLimit.Limits cap)

include hcap

/-- A release is bounded by the limit for a single request. -/
theorem bounded_release (now : Int) (id : String) (body : Option String) :
    Request.Bounded started ms cap now (c.request "DELETE" id c.plainLimit body) := by
  have hrelease : (c.request "DELETE" id c.plainLimit body).method = "DELETE" := rfl
  unfold Request.Bounded
  rw [if_pos hrelease]
  show c.plainLimit.attached.request.Limits cap
  rw [TimeLimit.attached_request]
  exact hcap

/-- A fetch is bounded by the deadline that it is made under. -/
theorem bounded_fetch {d : Deadline} (hd : d.Until started ms) (hms : 0 ≤ ms) (now : Int)
    (id : String) (limit : TimeLimit) (body : Option String)
    (hlimit : c.limitAt (some d) now = .ok limit) :
    Request.Bounded started ms cap now (c.request "PUT" id limit body) :=
  Request.bounded_of_granted (show "PUT" ≠ "DELETE" by decide) (hd.granted hcap hms hlimit)

end Cursor

/-! ### Late requests -/

/-- **A fetch is due:** it is needed, no other one is on its way, and the server knows the cursor by
a name. -/
structure Cursor.Due (c : Cursor α) (s : Scene) : Prop where
  needed : (s.cursors c.ref).needsFetch = true
  idle : (s.cursors c.ref).fetching = false
  named : (s.cursors c.ref).cursorId.isSome = true

/-- **A program times out:** it sends nothing but releases and ends with the timeout of a deadline,
whatever comes back to it; or in the way in which the exchange of a release has failed, if that is
not one that the client reports. -/
def Program.TimesOut (p : Program β) (s : Scene) : Prop :=
  ∀ fails : Failure → Prop, p.wp (.hostile (fun q => q.method = "DELETE") fails) (fun r _ _ =>
    (∃ label overall, r = .error (.timeout (.deadline label overall)) ∧
      (Timeout.deadline label overall).part = .generic) ∨
    ∃ e, r = .error e ∧ e.isClientError = false ∧ fails e) () s

namespace Cursor

variable {ω : Type} {D : Discipline ω} {w : ω} {d : Deadline}

/-- What fails with the timeout of a deadline times out. -/
theorem timesOut_of_failsWith {p : Program β}
    (h : ∀ fails, p.wp (.hostile (fun q => q.method = "DELETE") fails)
      (fun r _ _ => FailsWith d.overdue fails r) () s) : p.TimesOut s := by
  intro fails
  refine Program.wp_mono (h fails) fun r _ _ hend => ?_
  obtain rfl | hbroken := hend
  · exact .inl ⟨d.label, d.overall.getD .null, rfl, rfl⟩
  · exact .inr hbroken

/-- **A fetch that is late is not made,** nor is one that is granted no limit for another reason. -/
theorem wp_fetchNext_late {e : Failure} (hdue : c.Due s)
    (hlate : c.limitAt (some d) s.now = .error e) :
    (c.fetchNext (some d)).wp D (fun r _ _ => r = .error e) w s := by
  have hbatch : ∀ s' : Scene, s'.now = s.now → (s'.cursors c.ref).cursorId.isSome = true →
      (c.fetchBatch (some d)).wp D (fun r _ _ => r = .error e) w s' := by
    intro s' hnow hnamed
    refine wp_fetchBatch_of ?_ ?_ ?_
    · intro hnone
      rw [hnone] at hnamed
      cases hnamed
    · intro id e _ he
      rw [hnow, hlate] at he
      cases he
      rfl
    · intro id limit _ hlimit
      rw [hnow, hlate] at hlimit
      cases hlimit
  have hingest : ∀ {fetch : Program Batch},
      fetch.wp D (fun r _ _ => r = .error e) w s →
        (fetch >>= c.ingest).wp D (fun r _ _ => r = .error e) w s := by
    intro fetch hfetch
    refine Program.wp_seq hfetch (fun _ _ _ he => nomatch he) ?_
    rintro e _ _ ⟨⟩
    rfl
  refine wp_fetchNext_of (hingest (hbatch s rfl hdue.named)) (hingest ?_)
  -- the mark of an asynchronous cursor moves neither the clock nor the name
  rw [wp_fetchAlone, if_neg (by rw [hdue.idle]; exact Bool.false_ne_true)]
  refine hbatch _ rfl ?_
  rw [Scene.changeCursor_cursors_self]
  exact hdue.named

variable (hchannel : c.service.gateway.channel = some c.service.mode) (fails : Failure → Prop)

include hchannel

/-- **Where a fetch is late,** whatever would have come behind it, the cursor is closed behind the
timeout. -/
theorem wp_closing_late (hdue : c.Due s) (hlate : c.limitAt (some d) s.now = .error d.overdue)
    (k : Unit → Program β) :
    (c.closing (c.fetchNext (some d) >>= k)).wp (.hostile (fun q => q.method = "DELETE") fails)
      (fun r _ _ => FailsWith d.overdue fails r) () s := by
  refine wp_closing_failsWith hchannel (fun _ _ _ => rfl) ?_
  refine Program.wp_seq (wp_fetchNext_late hdue hlate) (fun _ _ _ he => nomatch he) ?_
  rintro e _ _ ⟨⟩
  exact .inl rfl

/-- Where nothing is left of a deadline to read a cursor in, the cursor is closed behind the
timeout. -/
theorem wp_closing_forRest_late (hlate : d.remaining s.now .null none = .error d.overdue)
    (read : Value → Program β) :
    (c.closing (d.forRest read)).wp (.hostile (fun q => q.method = "DELETE") fails)
      (fun r _ _ => FailsWith d.overdue fails r) () s := by
  refine wp_closing_failsWith hchannel (fun _ _ _ => rfl) ?_
  refine Program.wp_byClock (fun limit hlimit => ?_) fun e he => ?_
  · rw [hlate] at hlimit
    cases hlimit
  · rw [hlate] at he
    cases he
    exact .inl rfl

end Cursor

/-! ### Reading a cursor to its end -/

/-- **The methods that read a cursor to its end keep to their deadline.** The functions that are
called on items may send requests of their own, which have to be told apart from those of the
method. -/
structure Cursor.OnTime (c : Cursor α) (pace : Scene → Int) (s : Scene)
    (general timeout : Option Int) (ms cap : Int) : Prop where
  toList : ((c.toList general timeout).paced pace).Sends (Request.Bounded s.now ms cap) s
  forEach : ∀ (visit : α → Program Bool) (foreign : Request → Prop),
    (∀ a s', ((visit a).paced pace).Sends (fun _ q => foreign q) s') →
      ((c.forEach visit general timeout).paced pace).Sends
        (fun now q => foreign q ∨ Request.Bounded s.now ms cap now q) s
  /-- What is sent apart from releases comes of fetches. -/
  fetchesOfList : ((c.toList general timeout).paced pace).SendsFrom
    (c.AtFetch s.now (c.overall general timeout)) (fun q => q.method = "DELETE") s
  fetchesOfVisits : ∀ (visit : α → Program Bool) (foreign : Request → Prop),
    (∀ a s', ((visit a).paced pace).Sends (fun _ q => foreign q) s') →
      ((c.forEach visit general timeout).paced pace).SendsFrom
        (c.AtFetch s.now (c.overall general timeout))
        (fun q => foreign q ∨ q.method = "DELETE") s
  /-- At a fetch that is due once the deadline has passed, the method times out. -/
  late : 0 < ms → ∀ {γ : Type} (p : Program γ) (s' : Scene),
    c.AtFetch s.now (c.overall general timeout) p → c.Due s' → s.now + ms ≤ s'.now → p.TimesOut s'

theorem Cursor.onTime (hchannel : c.service.gateway.channel = some c.service.mode)
    {general timeout : Option Int} (hms : (c.overall general timeout).Limits ms)
    (hcap : c.requestLimit.Limits cap) : c.OnTime pace s general timeout ms cap where
  toList := sends_toListWithin (bounded_release hcap)
    fun _ hd now => bounded_fetch hcap (Deadline.until_starting hms hd) hms.1 now
  forEach visit foreign hvisit := by
    refine sends_forEach (fun now id body => .inr (bounded_release hcap now id body)) ?_ ?_
    · exact fun _ hd now id limit body hlimit =>
        .inr (bounded_fetch hcap (Deadline.until_starting hms hd) hms.1 now id limit body hlimit)
    · exact fun a s' => (hvisit a s').mono fun _ _ => .inl
  fetchesOfList := sendsFrom_toListWithin fun _ _ => rfl
  fetchesOfVisits visit foreign hvisit := sendsFrom_forEach (fun _ _ => .inr rfl)
    fun a s' => (hvisit a s').mono fun _ _ => .inl
  late := by
    rintro hpos γ _ s' ⟨d, hd, k, rfl⟩ hdue hlate
    exact timesOut_of_failsWith fun fails => wp_closing_late hchannel fails hdue
      ((Deadline.until_starting hms hd).overdue hpos hlate _ _) k

/-! ### Queries -/

/-- What a submitted query leaves: a cursor under the limit for a single request, and the deadline.
-/
structure Database.Submitted (d : Database) (request : Option Int) (started ms : Int)
    (made : Cursor α × Deadline) : Prop where
  service : made.1.service = d.service
  requestLimit :
    made.1.requestLimit = (request.map Value.int).getD d.session.options.timeouts.request
  deadline : made.2.Until started ms

/-- **A query is at a fetch** for the list of its results, which is read under what was left of the
deadline at a later time. -/
def Database.AtFetch (d : Database) (request : Option Int) (started ms : Int) (c : Cursor α)
    (p : Program β) : Prop :=
  ∃ deadline later limit left, d.Submitted request started ms (c, deadline) ∧
    Value.Limits limit left ∧ Deadline.Rest started ms later left ∧
    ∃ list : Program β, c.AtFetch later limit list ∧ p = c.closing list

/-- **A query that is read as a whole keeps to its deadline.** It is submitted at once. The list of
its results is read under what is left of the deadline, and the cursor is closed once more behind
it. -/
structure Database.QueryOnTime (d : Database) (q : Query) (mapper : Mapper α) (pace : Scene → Int)
    (s : Scene) (general request timeout : Option Int) (ms cap : Int) : Prop where
  query : ((d.query q mapper general request timeout).paced pace).Sends
    (Request.Bounded s.now ms cap) s
  /-- Whatever is fetched comes of a fetch for the list. -/
  fetches : ((d.query q mapper general request timeout).paced pace).SendsFrom
    (fun p => ∃ c : Cursor α, d.AtFetch request s.now ms c p) (fun q => q.method ≠ "PUT") s
  /-- Where the deadline has passed when the query has been submitted, it times out. -/
  lateList : 0 < ms → ∀ (made : Cursor α × Deadline) (s₁ : Scene),
    (d.submitted q mapper general request timeout).ComesTo s (.done (.ok made)) s₁ →
      s.now + ms ≤ s₁.now → ∃ p,
        ((d.query q mapper general request timeout).paced pace).ComesTo s p s₁ ∧ p.TimesOut s₁
  /-- At a fetch that is due once the deadline has passed, the query times out. -/
  lateFetch : 0 < ms → ∀ (c : Cursor α) {γ : Type} (p : Program γ) (s' : Scene),
    d.AtFetch request s.now ms c p → c.Due s' → s.now + ms ≤ s'.now → p.TimesOut s'

namespace Database

variable {d : Database} {q : Query} {mapper : Mapper α} {general request timeout : Option Int}

/-- A query is submitted promptly. -/
theorem prompt_submitted : (d.submitted q mapper general request timeout).Prompt := by
  open Program in
  have hopened : ∀ (service : QueryService) (mapper : Mapper α) (requestLimit overallLimit : Value)
      (first : Batch), (Cursor.opened service mapper requestLimit overallLimit first).Prompt :=
    fun _ _ _ _ _ => prompt_bind (prompt_view _) fun _ => prompt_bind (prompt_update rfl) fun _ =>
      prompt_bind (Cursor.prompt_ingest _) fun _ => prompt_pure _
  open Program in
  exact prompt_bind (prompt_view _) fun _ => prompt_bind (prompt_ofExcept _) fun _ =>
    prompt_bind (prompt_view _) fun _ => prompt_bind (prompt_ofExcept _) fun _ =>
      prompt_bind (QueryService.prompt_submit _ _ _) fun _ =>
        prompt_bind (hopened _ _ _ _ _) fun _ => prompt_pure _

/-- The query as a whole, where items take time. -/
theorem paced_query : (d.query q mapper general request timeout).paced pace =
    d.submitted q mapper general request timeout >>= fun made =>
      made.1.closing (made.2.forRest fun limit => (made.1.toListWithin limit).paced pace) := by
  rw [query_eq, prompt_submitted.paced_bind]
  refine congrArg (_ >>= ·) (funext fun made => ?_)
  rw [Cursor.paced_closing]
  refine congrArg made.1.closing ?_
  exact ((Program.prompt_view _).paced_bind _).trans (congrArg (_ >>= ·) (funext fun now =>
    (Program.prompt_ofExcept _).paced_bind _))

/-- **What a query has been submitted with:** a cursor under the limit for a single request, and the
deadline that has been started for it. -/
structure Begun (d : Database) (overall : Value) (request : Option Int) (started : Int)
    (made : Cursor α × Deadline) : Prop where
  service : made.1.service = d.service
  requestLimit :
    made.1.requestLimit = (request.map Value.int).getD d.session.options.timeouts.request
  deadline : Deadline.starting started overall (some generalTimeoutLabel) = .ok made.2

theorem Begun.submitted {overall : Value} {made : Cursor α × Deadline}
    (h : d.Begun overall request started made) (hms : overall.Limits ms) :
    d.Submitted request started ms made :=
  ⟨h.service, h.requestLimit, Deadline.until_starting hms h.deadline⟩

/-- **A query is submitted** at once, under its deadline. -/
theorem wp_submitted_timed (hmay : ∀ deadline limit body,
    Deadline.starting s.now (d.session.options.timeouts.overall general timeout)
      (some generalTimeoutLabel) = .ok deadline →
    deadline.remaining s.now ((request.map Value.int).getD d.session.options.timeouts.request)
      (some requestTimeoutLabel) = .ok limit →
    may s.now (d.service.gateway.requestFor (QueryService.submission q limit) body)) :
    (d.submitted q mapper general request timeout).wp (.timed may) (fun r _ _ => ∀ made,
      r = .ok made → d.Begun (d.session.options.timeouts.overall general timeout) request s.now made)
      () s := by
  refine Program.wp_byClock (fun deadline hdeadline => ?_) fun _ _ _ h => nomatch h
  refine Program.wp_byClock (fun limit hlimit => ?_) fun _ _ _ h => nomatch h
  have hsubmit : (d.service.submit q limit).Sends may s :=
    QueryService.sends_submit fun body => hmay deadline limit body hdeadline hlimit
  refine Program.wp_seq hsubmit ?_ fun _ _ _ _ _ h => nomatch h
  intro first w s' _
  refine Program.wp_seq Cursor.wp_opened ?_ fun _ _ _ _ _ h => nomatch h
  rintro c w s'' hmade _ ⟨⟩
  obtain ⟨rfl, -, -⟩ := hmade c rfl
  exact ⟨rfl, rfl, hdeadline⟩

/-- Whatever has come back to a query, it is known with what it has been submitted. -/
theorem begun_of_comesTo {made : Cursor α × Deadline} {s₁ : Scene}
    (h : (d.submitted q mapper general request timeout).ComesTo s (.done (.ok made)) s₁) :
    d.Begun (d.session.options.timeouts.overall general timeout) request s.now made := by
  have hwp : (d.submitted q mapper general request timeout).wp (.timed fun _ _ => True)
      (fun r _ _ => ∀ made, r = .ok made →
        d.Begun (d.session.options.timeouts.overall general timeout) request s.now made) () s :=
    wp_submitted_timed fun _ _ _ _ _ => trivial
  exact h.of_wp hwp made rfl

/-- **The list of results** is read under what is left of the deadline. -/
theorem Submitted.sends_closing {made : Cursor α × Deadline} (h : d.Submitted request started ms made)
    (hms : 0 ≤ ms)
    (hcap : ((request.map Value.int).getD d.session.options.timeouts.request).Limits cap) :
    (made.1.closing (made.2.forRest fun limit => (made.1.toListWithin limit).paced pace)).Sends
      (Request.Bounded started ms cap) s := by
  rw [← h.requestLimit] at hcap
  refine Cursor.sends_closing (Cursor.bounded_release hcap) (.byClock fun rest hrest => ?_)
  obtain ⟨left, hleft, hends⟩ := h.deadline.rest hms hrest
  refine Cursor.sends_toListWithin (Cursor.bounded_release hcap) ?_
  intro inner hinner now id limit body hlimit
  have hgranted := (Deadline.until_starting hleft hinner).granted hcap hleft.1 hlimit
  exact Request.bounded_of_granted (show "PUT" ≠ "DELETE" by decide) (hgranted.of_rest hends)

/-- The rest of a query that has been submitted fetches for the list of its results. -/
theorem Submitted.sendsFrom_closing {made : Cursor α × Deadline}
    (h : d.Submitted request started ms made) (hms : 0 ≤ ms) :
    (made.1.closing (made.2.forRest fun limit => (made.1.toListWithin limit).paced pace)).SendsFrom
      (fun p => ∃ c : Cursor α, d.AtFetch request started ms c p) (fun q => q.method ≠ "PUT") s := by
  have hdelete : ∀ id body, (made.1.request "DELETE" id made.1.plainLimit body).method ≠ "PUT" :=
    fun _ _ => show "DELETE" ≠ "PUT" by decide
  have hlist : (made.2.forRest fun limit => (made.1.toListWithin limit).paced pace).SendsFrom
      (fun p => ∃ later limit left, Value.Limits limit left ∧ Deadline.Rest started ms later left ∧
        made.1.AtFetch later limit p) (fun q => q.method ≠ "PUT") s := by
    refine .byClock fun rest hrest => ?_
    obtain ⟨left, hleft, hends⟩ := h.deadline.rest hms hrest
    exact (Cursor.sendsFrom_toListWithin hdelete).mono fun p hp =>
      ⟨s.now, _, left, hleft, hends, hp⟩
  refine (Cursor.sendsFrom_closing hdelete hlist).mono ?_
  rintro _ ⟨list, ⟨later, limit, left, hleft, hends, hat⟩, rfl⟩
  exact ⟨made.1, made.2, later, limit, left, h, hleft, hends, list, hat, rfl⟩

theorem queryOnTime
    (hms : (TimeoutSettings.overallOr d.session.options.timeouts.general general timeout).Limits ms)
    (hcap : ((request.map Value.int).getD d.session.options.timeouts.request).Limits cap) :
    d.QueryOnTime q mapper pace s general request timeout ms cap where
  query := by
    rw [paced_query]
    refine Program.wp_seq (wp_submitted_timed fun deadline limit body hdeadline hlimit => ?_) ?_
      fun _ _ _ _ => trivial
    · exact Request.bounded_of_granted (show "POST" ≠ "DELETE" by decide)
        ((Deadline.until_starting hms hdeadline).granted hcap hms.1 hlimit)
    · exact fun made _ s' hmade => ((hmade made rfl).submitted hms).sends_closing hms.1 hcap
  fetches := by
    rw [paced_query]
    have hsubmit : (d.submitted q mapper general request timeout).Sends
        (fun _ q => q.method ≠ "PUT") s :=
      Program.wp_mono (wp_submitted_timed fun _ _ _ _ _ => show "POST" ≠ "PUT" by decide)
        fun _ _ _ _ => trivial
    refine Program.SendsFrom.bind (V := fun _ => False) (.of_sends hsubmit)
      (fun _ hfalse => hfalse.elim) fun made s₁ hdone => ?_
    exact ((begun_of_comesTo hdone).submitted hms).sendsFrom_closing hms.1
  lateList hpos made s₁ hdone hlate := by
    have hmade := (begun_of_comesTo hdone).submitted hms
    have hchannel := channel_of_service hmade.service
    refine ⟨_, ?_, Cursor.timesOut_of_failsWith fun fails => Cursor.wp_closing_forRest_late hchannel
      fails (hmade.deadline.overdue hpos hlate _ _) fun limit =>
        (made.1.toListWithin limit).paced pace⟩
    rw [paced_query]
    exact hdone.bind _
  lateFetch := by
    rintro hpos c γ _ s' ⟨deadline, later, limit, left, hmade, hleft, hends, _,
      ⟨inner, hinner, k, rfl⟩, rfl⟩ hdue hlate
    have hchannel := channel_of_service hmade.service
    -- the list is read under a deadline of its own, which does not pass later
    obtain ⟨hleftpos, hmost⟩ := hends.within hpos
    have hinnerlate := (Deadline.until_starting hleft hinner).overdue hleftpos
      (show later + left ≤ s'.now by omega) c.requestLimit (some requestTimeoutLabel)
    exact Cursor.timesOut_of_failsWith fun fails => Cursor.wp_closing_failsWith hchannel
      (fun _ _ _ => rfl) (Cursor.wp_closing_late hchannel fails hdue hinnerlate k)

end Database

/-! ### Making a session -/

/-- **Making a session keeps to its deadline.** The server is asked for its version under what is
left once the credentials have been settled. -/
structure Client.ConnectOnTime (client : Client) (mode : Mode) (address : String)
    (credentials : Option Credentials) (options : Option OptionsOverride) (ownsTransport : Bool)
    (s : Scene) (ms cap : Int) : Prop where
  connect : (client.connect mode address credentials options ownsTransport).Sends
    (Request.Bounded s.now ms cap) s
  /-- Where the deadline has passed when the credentials have been settled, the server is not asked.
  -/
  late : 0 < ms → ∀ deadline, Deadline.starting s.now
    (client.sessionOptions options credentials).timeouts.general (some generalTimeoutLabel) =
      .ok deadline → ∀ settled s₁, (settledCredentials mode address
        (client.sessionOptions options credentials) deadline).run s = (.ok settled, s₁) →
          s.now + ms ≤ s₁.now → ∃ label overall s',
            (client.connect mode address credentials options ownsTransport).run s =
              (.error (.timeout (.deadline label overall)), s') ∧ s'.sent = s₁.sent ∧
                (Timeout.deadline label overall).part = .generic

namespace Client

variable {mode : Mode} {address : String} {deadline : Deadline}

section Establishing

variable {options : Options} (hdeadline : deadline.Until started ms)
  (hms : 0 ≤ ms) (hcap : options.timeouts.request.Limits cap)

include hdeadline hms hcap

/-- Credentials are settled at once. -/
theorem sends_settledCredentials :
    (settledCredentials mode address options deadline).Sends (Request.Bounded started ms cap) s := by
  unfold settledCredentials
  split
  · refine .byClock fun limit hlimit => ?_
    refine (Program.wp_update_bind _ _ _).2 (Program.Sends.bind ?_ fun envelope s' => ?_)
    · exact Gateway.sends_request fun body => Request.bounded_of_granted
        (show "POST" ≠ "DELETE" by decide) (hdeadline.granted hcap hms hlimit)
    · exact (Program.wp_update_bind _ _ _).2 (Program.Sends.bind trivial fun _ _ => trivial)
  · trivial

theorem sends_establish {ownsTransport : Bool} : (establish mode address options ownsTransport
    deadline).Sends (Request.Bounded started ms cap) s := by
  refine Program.Sends.bind (sends_settledCredentials hdeadline hms hcap) fun credentials s' => ?_
  refine Program.Sends.bind (p := Session.opened mode address options credentials ownsTransport)
    trivial fun session s' => ?_
  refine (Program.wp_update_bind _ _ _).2 (Program.Sends.byClock fun limit hlimit => ?_)
  refine Program.Sends.bind ?_ fun _ _ => Program.Sends.bind trivial fun _ _ => trivial
  exact Gateway.sends_request fun body => Request.bounded_of_granted
    (show "GET" ≠ "DELETE" by decide) (hdeadline.granted hcap hms hlimit)

end Establishing

/-- **The server is not asked** for its version once the deadline has passed. -/
theorem establish_late {options : Options} {settled : Credentials} (ownsTransport : Bool) {s₁ : Scene}
    (hsettled : (settledCredentials mode address options deadline).run s = (.ok settled, s₁))
    (hlate : deadline.remaining s₁.now options.timeouts.request (some requestTimeoutLabel) =
      .error deadline.overdue) :
    ∃ s', (establish mode address options ownsTransport deadline).run s =
      (.error deadline.overdue, s') ∧ s'.sent = s₁.sent := by
  let probed := s₁.addSession.record .info
    ("probing server at " ++ Url.trimEnd address ++ mode.logEnding)
  refine ⟨probed, ?_, rfl⟩
  unfold establish
  rw [Program.run_bind, hsettled]
  show (Program.ofExcept (deadline.remaining s₁.now options.timeouts.request
    (some requestTimeoutLabel)) >>= _ : Program (Session × ServerVersion)).run probed = _
  rw [hlate]
  rfl

end Client

theorem Client.connectOnTime {client : Client} {mode : Mode} {address : String}
    {credentials : Option Credentials} {options : Option OptionsOverride} {ownsTransport : Bool}
    (hms : (client.sessionOptions options credentials).timeouts.general.Limits ms)
    (hcap : (client.sessionOptions options credentials).timeouts.request.Limits cap) :
    client.ConnectOnTime mode address credentials options ownsTransport s ms cap where
  connect := by
    refine .byClock fun deadline hdeadline => ?_
    refine Program.Sends.attempt_bind
      (sends_establish (Deadline.until_starting hms hdeadline) hms.1 hcap) fun r s' => ?_
    cases r with
    | ok made => trivial
    | error e => cases ownsTransport <;> trivial
  late hpos deadline hdeadline settled s₁ hsettled hlate := by
    obtain ⟨s', hestablish, hsent⟩ := establish_late ownsTransport hsettled
      ((Deadline.until_starting hms hdeadline).overdue hpos hlate _ _)
    refine ⟨deadline.label, deadline.overall.getD .null,
      if ownsTransport then s'.closeTransport else s', ?_, ?_, rfl⟩
    · unfold connect Program.now
      rw [Program.run_bind]
      show (Program.ofExcept (Deadline.starting s.now _ _) >>= _ : Program Session).run s = _
      rw [hdeadline]
      show ((establish _ _ _ _ deadline).attempt >>= _ : Program Session).run s = _
      rw [Program.run_bind, Program.run_attempt, hestablish]
      cases ownsTransport <;> rfl
    · cases ownsTransport <;> exact hsent

/-! ### Deadlines are kept -/

/-- **Methods of several requests keep to their deadline:** those that read a cursor to its end, a
query that is read as a whole, and the one that makes a session. -/
theorem Scene.deadlines_kept (s : Scene) (pace : Scene → Int) (ms cap : Int) :
    (∀ {α : Type} (c : Cursor α) (general timeout : Option Int),
      c.service.gateway.channel = some c.service.mode → (c.overall general timeout).Limits ms →
        c.requestLimit.Limits cap → c.OnTime pace s general timeout ms cap) ∧
    (∀ {α : Type} (d : Database) (q : Query) (mapper : Mapper α)
      (general request timeout : Option Int),
      (d.session.options.timeouts.overall general timeout).Limits ms →
        ((request.map Value.int).getD d.session.options.timeouts.request).Limits cap →
          d.QueryOnTime q mapper pace s general request timeout ms cap) ∧
    ∀ (client : Client) (mode : Mode) (address : String) (credentials : Option Credentials)
      (options : Option OptionsOverride) (ownsTransport : Bool),
      (client.sessionOptions options credentials).timeouts.general.Limits ms →
        (client.sessionOptions options credentials).timeouts.request.Limits cap →
          client.ConnectOnTime mode address credentials options ownsTransport s ms cap :=
  ⟨fun _ _ _ hchannel => Cursor.onTime hchannel, fun _ _ _ _ _ _ => Database.queryOnTime,
    fun _ _ _ _ _ _ => Client.connectOnTime⟩

/-- A cursor, a query and a session of a client whose settings are those without any others. -/
theorem Scene.deadlines_kept_specimen : ∃ (c : Cursor Value) (s₁ : Scene),
    (Cursor.opened (Database.specimen .async).service Mapper.raw .null .null Batch.specimen).run
      Scene.specimen = (.ok c, s₁) ∧
    c.OnTime (fun _ => 5) s₁ none (some 50) 50 0 ∧
    (Database.specimen .async).QueryOnTime Query.specimen Mapper.raw (fun _ => 5) s₁ (some 30000)
      (some 10000) none 30000 10000 ∧
    (Client.make "1.0" none none none).ConnectOnTime .async "http://server"
      (some (.login (.str "root") (.str "secret"))) none true s₁ 30000 10000 := by
  refine ⟨_, _, rfl, ?_, ?_, ?_⟩
  · exact (Scene.deadlines_kept _ _ 50 0).1 _ _ _ rfl (.int (by decide)) .null
  · exact (Scene.deadlines_kept _ _ 30000 10000).2.1 _ _ _ _ _ _ (.int (by decide)) (.int (by decide))
  · exact (Scene.deadlines_kept _ (fun _ => 5) 30000 10000).2.2 _ _ _ _ _ _ (.int (by decide))
      (.int (by decide))

/-! ### A timeout that is lost -/

/-- The scene in which a batch takes long, and no connection is left behind it. -/
def Scene.overrun : Scene :=
  Scene.start 0
    [.specimen,
      ⟨.response 200 [] ("\x7b\"result\":[],\"hasMore\":true,\"id\":\"7\"\x7d".toList.map
        fun x => x.val.toUInt8), 100, none⟩,
      ⟨.broken "no connections left", 0, none⟩]

/-- The cursor of the query, over which a batch will take long. -/
def Cursor.overrun? : Except Failure (Cursor Value) × Scene :=
  ((Database.specimen .blocking).cursor Query.specimen Mapper.raw none none).run Scene.overrun

/-- Whether reading all that is left of a cursor ends with the failure of its release once the time
is up. -/
def Cursor.isOverrun (c : Cursor Value) (s : Scene) : Bool :=
  let r := (c.toList none (some 50)).run s
  (r.2.cursors c.ref).hasMore && decide (s.now + 50 ≤ r.2.now) &&
    r.2.sent.map (·.method) == ["POST", "PUT", "DELETE"] &&
      match r.1 with
      | .error (.raised text) => text == "no connections left"
      | _ => false

/-- **A timeout is lost if the release behind it breaks off:** more has been announced, the time is
up and no further batch is asked for, but the list ends with the failure of the release. -/
theorem Cursor.toList_broken_off : ∃ (c : Cursor Value) (s₂ : Scene),
    ((Database.specimen .blocking).cursor Query.specimen Mapper.raw none none).run Scene.overrun =
      (.ok c, overrun?.2) ∧
    (c.toList none (some 50)).run overrun?.2 = (.error (.raised "no connections left"), s₂) ∧
    (s₂.cursors c.ref).hasMore = true ∧ overrun?.2.now + 50 ≤ s₂.now ∧
    s₂.sent.map (·.method) = ["POST", "PUT", "DELETE"] := by
  have hcheck : (overrun?.1.toOption.any fun c => c.isOverrun overrun?.2) = true := by
    decide +kernel
  obtain ⟨c, hc, hover⟩ := (Option.any_eq_true _ _).1 hcheck
  unfold isOverrun at hover
  simp only [Bool.and_eq_true, decide_eq_true_eq, beq_iff_eq] at hover
  obtain ⟨⟨⟨hmore, hlate⟩, hsent⟩, hend⟩ := hover
  refine ⟨c, _, Program.run_of_toOption hc, Prod.ext ?_ rfl, hmore, hlate, hsent⟩
  split at hend
  case h_1 text htext =>
    rw [beq_iff_eq] at hend
    rw [htext, hend]
  case h_2 => cases hend

end AqlClient
