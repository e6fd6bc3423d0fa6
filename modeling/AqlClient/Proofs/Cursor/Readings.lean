import AqlClient.Proofs.Cursor.Pagination
import AqlClient.Proofs.Cursor.Twins

/-!
# Pagination is invisible

A caller who reads a query to its end cannot tell how the server has divided the results into
batches, and neither does it matter which way of reading is taken: as one query, as a list of all
that is left of a cursor, item by item, through a function that is called on each item, or batch by
batch (`Database.ReadsAs`). What comes of it is what the mapper makes of the results in one piece
(`Mapper.Makes`).

A query that is read as a whole sends the same requests as the list of a cursor, apart from their
limits, whatever the server does. The two are twins after the submission (`Cursor.Twin`), but that
the query closes its cursor once more; by then the cursor is closed, and nothing is sent
(`Cursor.sent_closing`).
-/

namespace AqlClient

variable {α β : Type} {c : Cursor α}

/-! ### What a mapper makes of a result -/

/-- **What comes of some items, mapped one by one:** all of them in order, or the failure of the
first one that is not accepted, which is named by its position. -/
structure Mapper.Makes (mapper : Mapper α) (items : List Value)
    (whole : Except Failure (List α)) : Prop where
  accepted : ∀ mapped : List α, items.map mapper = mapped.map .ok → whole = .ok mapped
  refused : ∀ before item after fault, items = before ++ item :: after → mapper.Accepts before →
    mapper item = .error fault → whole = .error (failureAt before.length item fault)

theorem Mapper.makes_convert (mapper : Mapper α) (items : List Value) :
    mapper.Makes items (mapper.convert 0 items) where
  accepted mapped h := convert_ok_iff.2 h
  refused before item after fault hitems haccepts hitem := by
    obtain ⟨mapped, hmapped⟩ := convert_of_accepts 0 haccepts
    rw [hitems, convert_append, hmapped]
    show ((mapper.convert (0 + before.length) (item :: after)).map (mapped ++ ·) : Except _ _) = _
    rw [convert_cons_error hitem, Int.zero_add]
    rfl

/-! ### Limits that are numbers -/

namespace TimeoutSettings

variable {settings : TimeoutSettings} (h : settings.request.MayLimit)

include h

theorem mayLimit_getD (request : Option Int) :
    ((request.map Value.int).getD settings.request).MayLimit := by
  cases request with
  | none => exact h
  | some ms => exact Value.mayLimit_int ms

theorem mayLimit_singleLimit (request timeout : Option Int) :
    (settings.singleLimit request timeout).request.MayLimit := by
  show (settings.single request timeout).1.MayLimit
  unfold single
  split
  · split <;> exact Value.mayLimit_int _
  · exact Value.mayLimit_int _
  · exact Value.mayLimit_int _
  · exact h

end TimeoutSettings

/-! ### The parts of a query -/

/-- A program under what is left of a deadline begins at once. -/
theorem Deadline.run_forRest {d : Deadline} (read : Value → Program β) {s : Scene}
    {rest : TimeLimit} (h : d.remaining s.now .null none = .ok rest) :
    (d.forRest read).run s = (read ((limiting rest.request).getD (.int 0))).run s := by
  unfold forRest
  show (Program.ofExcept (d.remaining s.now .null none) >>= fun rest =>
    read ((limiting rest.request).getD (.int 0))).run s = _
  rw [h]
  rfl

namespace Database

variable {d : Database} {q : Query} {mapper : Mapper α} {general request timeout : Option Int}
  {s : Scene}

/-- The limit for the single requests of a query that is read as a whole. -/
def requestLimit (d : Database) (request : Option Int) : Value :=
  (request.map Value.int).getD d.session.options.timeouts.request

/-- A query whose limits are in order is submitted, and the rest is read under its deadline. -/
theorem run_query {deadline : Deadline} {limit : TimeLimit}
    (hstart : Deadline.starting s.now (d.session.options.timeouts.overall general timeout)
      (some generalTimeoutLabel) = .ok deadline)
    (hlimit : deadline.remaining s.now (d.requestLimit request) (some requestTimeoutLabel) =
      .ok limit) :
    (d.query q mapper general request timeout).run s =
      (d.made q mapper limit (d.requestLimit request) .null >>= fun c =>
        c.closing (deadline.forRest c.toListWithin)).run s := by
  unfold query made
  show (Program.ofExcept (Deadline.starting s.now _ _) >>= _).run s = _
  rw [hstart]
  show (Program.ofExcept (deadline.remaining s.now (d.requestLimit request) _) >>= _).run s = _
  rw [hlimit, Program.bind_assoc]
  rfl

/-! ### Every way of reading -/

/-- **Every way of reading a query to its end comes to the same,** as long as there is time. -/
structure ReadsAs (d : Database) (q : Query) (mapper : Mapper α) (s : Scene)
    (whole : Except Failure (List α)) : Prop where
  query : ∀ general request timeout,
    (d.session.options.timeouts.overall general timeout).Ample s →
      ((d.query q mapper general request timeout).run s).1 = whole
  toList : ∀ request timeout general timeout',
    (d.session.options.timeouts.overall general timeout').Ample s →
      ((d.cursor q mapper request timeout >>= fun c => c.toList general timeout').run s).1 = whole
  iterate : ∀ request timeout slot shown,
    let ending := (d.cursor q mapper request timeout >>= fun c =>
      c.iterate (Cursor.collecting slot shown)).run s
    Cursor.NotesAll slot shown whole (s.journal slot) ending.1 ending.2.journal
  forEach : ∀ request timeout slot shown general timeout',
    (d.session.options.timeouts.overall general timeout').Ample s →
      let ending := (d.cursor q mapper request timeout >>= fun c =>
        c.forEach (Cursor.collecting slot shown) general timeout').run s
      Cursor.NotesAll slot shown whole (s.journal slot) ending.1 ending.2.journal
  allBatches : ∀ request timeout,
    ((d.cursor q mapper request timeout >>= Cursor.allBatches).run s).1 = whole

/-! ### Reading what is served -/

/-- **A cursor that can be read to its end:** it holds the first of some batches, the others are
served, and nothing else will get into its way. -/
structure Ready (mapper : Mapper α) (pages : List Batch) (s : Scene) (c : Cursor α)
    (held : List Value) (rest : List Batch) (s₁ : Scene) : Prop where
  channel : c.service.gateway.channel = some c.service.mode
  stocked : c.Stocked held 0 rest s₁
  whole : c.mapper.convert 0 (Batch.ahead held rest) =
    mapper.convert 0 (pages.flatMap Batch.results)
  transport : s₁.FailsBy fun e => e.isTransport = true
  later : s.Later s₁
  journal : s₁.journal = s.journal

section Served

variable {pages : List Batch} {body : Option String} (hpages : pages ≠ [])
  (hbody : (Value.ofNamed q.payload).encodePayload = .ok body) (hpaged : Batch.Paged pages)
  (hserved : mapper.Serves pages s.script) (hscript : s.FailsBy fun e => e.isTransport = true)

include hpages hbody hpaged hserved hscript

/-- **What comes of a query that is served,** and whose cursor is read by some method. -/
theorem run_made {limit : TimeLimit} {requestLimit overallLimit : Value}
    {read : Cursor α → Program β} {R : Except Failure β → (Nat → List Value) → Prop}
    (hread : ∀ c held rest s₁, c.requestLimit = requestLimit → c.overallLimit = overallLimit →
      Ready mapper pages s c held rest s₁ →
      (read c).wp .alone (fun r _ s' => R r s'.journal) () s₁) :
    let ending := (d.made q mapper limit requestLimit overallLimit >>= read).run s
    R ending.1 ending.2.journal := by
  obtain ⟨first, rest, rfl⟩ := List.exists_cons_of_ne_nil hpages
  obtain ⟨c, hc, hservice, rfl, hrequest, hoverall, hstocked, hexchanged⟩ :=
    (Program.wp_alone (w := ()) _).1 (wp_made_stocked (d := d) (q := q) hbody hpaged hserved)
  have hrun : (d.made q c.mapper limit requestLimit overallLimit).run s =
      (.ok c, ((d.made q c.mapper limit requestLimit overallLimit).run s).2) := Prod.ext hc rfl
  have hchannel := Database.channel_of_service hservice
  rw [Program.run_bind, hrun]
  exact (Program.wp_alone _).1 (hread c _ _ _ hrequest hoverall
    ⟨hchannel, hstocked, rfl, hscript.before (Program.before_run _ s), hexchanged.later,
      hexchanged.journal⟩)

variable (hlimit : d.session.options.timeouts.request.MayLimit)

include hlimit

/-- A query that is served and read as a whole gives what the mapper makes of its results. -/
theorem query_served (hample : (d.session.options.timeouts.overall general timeout).Ample s) :
    ((d.query q mapper general request timeout).run s).1 =
      mapper.convert 0 (pages.flatMap Batch.results) := by
  have hcap : (d.requestLimit request).MayLimit := TimeoutSettings.mayLimit_getD hlimit request
  obtain ⟨deadline, hstart, hpending⟩ :=
    Deadline.starting_of_ample s.moment_now hample (some generalTimeoutLabel)
  obtain ⟨limit, hremaining⟩ := Deadline.lasts_of_pending hpending hcap 0
  rw [s.timeAfter_zero] at hremaining
  rw [run_query hstart hremaining]
  refine run_made hpages hbody hpaged hserved hscript
    (R := fun r _ => r = mapper.convert 0 (pages.flatMap Batch.results)) ?_
  intro c held rest s₁ hrequest _ hready
  obtain ⟨left, deadline', hleft, hstart', hpending'⟩ := Deadline.rest_of_pending s₁.moment_now
    (Deadline.pending_later hpending hready.later) (some generalTimeoutLabel)
  have hlasts : deadline'.Lasts c.requestLimit s₁ := by
    rw [hrequest]
    exact Deadline.lasts_of_pending hpending' hcap
  have hread : (deadline.forRest c.toListWithin).wp .alone (fun r _ s' => c.Settles (fun r _ =>
      r = c.mapper.convert 0 (Batch.ahead held rest)) r s') () s₁ := by
    rw [Program.wp_alone, Deadline.run_forRest _ hleft]
    exact (Program.wp_alone _).1
      (hready.stocked.wp_toListWithin hready.channel hready.transport hstart' hlasts)
  rw [← hready.whole]
  -- the list has closed the cursor already
  exact Program.wp_mono (Cursor.wp_closing_settles hready.channel hready.transport
    (fun _ _ _ he => he) hread) fun _ _ _ hsettled => hsettled.1

omit hpages hbody hpaged hserved hscript in
/-- A method that reads to the end can be started within an ample limit. -/
theorem Ready.starting {c : Cursor α} {held : List Value} {rest : List Batch} {s₁ : Scene}
    (h : Ready mapper pages s c held rest s₁)
    (hrequest : c.requestLimit = (d.session.limit request timeout).request)
    (hoverall : c.overallLimit = d.session.options.timeouts.general) {timeout' : Option Int}
    (hample : (d.session.options.timeouts.overall general timeout').Ample s) :
    ∃ deadline, Deadline.starting s₁.now (c.overall general timeout') (some generalTimeoutLabel) =
      .ok deadline ∧ deadline.Lasts c.requestLimit s₁ := by
  have hample' : (c.overall general timeout').Ample s₁ := by
    unfold Cursor.overall
    rw [hoverall]
    exact hample.later h.later
  obtain ⟨deadline, hstart, hpending⟩ :=
    Deadline.starting_of_ample s₁.moment_now hample' (some generalTimeoutLabel)
  refine ⟨deadline, hstart, Deadline.lasts_of_pending hpending ?_⟩
  rw [hrequest]
  exact TimeoutSettings.mayLimit_singleLimit hlimit request timeout

/-- **What is served is read as the mapper has it,** in every way. -/
theorem readsAs_served : d.ReadsAs q mapper s (mapper.convert 0 (pages.flatMap Batch.results)) where
  query general request timeout hample :=
    query_served hpages hbody hpaged hserved hscript hlimit hample
  toList request timeout general timeout' hample := by
    rw [cursor_eq]
    refine run_made hpages hbody hpaged hserved hscript
      (R := fun r _ => r = mapper.convert 0 (pages.flatMap Batch.results)) ?_
    intro c held rest s₁ hrequest hoverall hready
    obtain ⟨deadline, hstart, hlasts⟩ := hready.starting hlimit hrequest hoverall hample
    rw [← hready.whole]
    exact Program.wp_mono (hready.stocked.wp_toListWithin hready.channel hready.transport hstart
      hlasts) fun _ _ _ hsettled => hsettled.1
  iterate request timeout slot shown := by
    rw [cursor_eq]
    refine run_made hpages hbody hpaged hserved hscript ?_
    intro c held rest s₁ _ _ hready
    rw [← hready.whole, ← hready.journal]
    exact Program.wp_mono (hready.stocked.wp_iterate hready.channel) fun _ _ _ hsettled =>
      hsettled.1
  forEach request timeout slot shown general timeout' hample := by
    rw [cursor_eq]
    refine run_made hpages hbody hpaged hserved hscript ?_
    intro c held rest s₁ hrequest hoverall hready
    obtain ⟨deadline, hstart, hlasts⟩ := hready.starting hlimit hrequest hoverall hample
    rw [← hready.whole, ← hready.journal]
    exact Program.wp_mono (hready.stocked.wp_forEach hready.channel hready.transport hstart hlasts)
      fun _ _ _ hsettled => hsettled.1
  allBatches request timeout := by
    rw [cursor_eq]
    refine run_made hpages hbody hpaged hserved hscript
      (R := fun r _ => r = mapper.convert 0 (pages.flatMap Batch.results)) ?_
    intro c held rest s₁ _ _ hready
    rw [← hready.whole]
    exact Program.wp_mono (hready.stocked.wp_allBatches hready.channel) fun _ _ _ hgathered =>
      hgathered.1

end Served

end Database

/-! ### The same requests -/

/-- A request apart from its limit. -/
def Request.unlimited (q : Request) : Request := { q with limit := .none }

/-- Runs are compared apart from the limits of their requests, in the time that the script of a
scene takes. -/
def Likeness.unlimited (s : Scene) : Likeness where
  seen _ := .none
  moment := s.Moment
  mixed := False

/-- A scene looks like itself. -/
theorem Scene.unlimited_refl (s : Scene) :
    (Likeness.unlimited s).Scenes (Likeness.unlimited s).Level s s :=
  ⟨rfl, rfl, rfl, ⟨rfl, False.elim⟩, rfl, rfl, rfl, rfl, fun number => ⟨number, rfl⟩⟩

namespace Cursor

/-- Under deadlines that do not pass there is always some limit. -/
theorem timed_unlimited {c c' : Cursor α} {d d' : Deadline} {s : Scene}
    (hd : ∀ k, d.Pending (s.timeAfter k)) (hd' : ∀ k, d'.Pending (s.timeAfter k))
    (hcap : c.requestLimit.MayLimit) (hcap' : c'.requestLimit.MayLimit) :
    Timed (.unlimited s) c c' (some d) (some d') := by
  rintro _ ⟨k, rfl⟩
  obtain ⟨limit, hlimit⟩ := (hd k).remaining hcap (some requestTimeoutLabel)
  obtain ⟨limit', hlimit'⟩ := (hd' k).remaining hcap' (some requestTimeoutLabel)
  show (Likeness.unlimited s).Results (Likeness.unlimited s).Limits
    (d.remaining (s.timeAfter k) c.requestLimit _) (d'.remaining (s.timeAfter k) c'.requestLimit _)
  rw [hlimit, hlimit']
  exact .ok rfl

/-- A cursor is closed behind its closing, whatever comes of the release. -/
theorem wp_close_closed (s : Scene) :
    c.close.wp .alone (fun _ _ s' => (s'.cursors c.ref).phase = .closed) () s := by
  let I : Unit → Scene → Prop := fun _ s' => (s'.cursors c.ref).phase = .closed
  have hI : Logless I := fun _ _ _ _ h => h
  have hclosed : I () (s.changeCursor c.ref .closed) := by
    show ((s.changeCursor c.ref .closed).cursors c.ref).phase = .closed
    rw [Scene.changeCursor_cursors_self]
    rfl
  unfold close
  rw [wp_look, wp_update]
  split
  · exact hclosed
  · refine Program.wp_mono (QueryService.wp_release hI hI ?_ hclosed) fun _ _ _ h => h.elim id id
    intro body w s' hs'
    refine ⟨trivial, fun w' reply s'' hback => ?_⟩
    obtain ⟨-, rfl⟩ := Discipline.alone_back hback
    exact hs'

/-- A cursor is closed behind a program that closes it on its way out. -/
theorem wp_closing_closed (body : Program β) (s : Scene) :
    (c.closing body).wp .alone (fun _ _ s' => (s'.cursors c.ref).phase = .closed) () s :=
  wp_closing_of (fun _ _ _ _ h => h) ((Program.wp_alone _).2 (wp_close_closed _))

/-- A cursor is closed behind a list of all that is left, if the list can be started. -/
theorem wp_toListWithin_closed {limit : Value} {d : Deadline} {s : Scene}
    (hstart : Deadline.starting s.now limit (some generalTimeoutLabel) = .ok d) :
    (c.toListWithin limit).wp .alone (fun _ _ s' => (s'.cursors c.ref).phase = .closed) () s := by
  rw [toListWithin_eq]
  unfold underDeadline
  rw [Program.wp_bind, wp_deadline]
  split
  case isTrue hclosed => exact hclosed
  case isFalse =>
    rw [hstart, Program.chain_ok]
    exact wp_closing_closed _ s

/-- **Closing a closed cursor sends nothing.** -/
theorem sent_closing {body : Program β} {s : Scene}
    (h : ((body.run s).2.cursors c.ref).phase = .closed) :
    ((c.closing body).run s).2.sent = (body.run s).2.sent := by
  let s' := (body.run s).2.changeCursor c.ref .closed
  have hrelease : ((body.run s).2.cursors c.ref).toRelease = none := by
    refine CursorState.toRelease_of_not_live ?_
    rw [h]
    exact Phase.noConfusion
  have hclose : c.close.run (body.run s).2 = (.ok (), s') := run_close_of_none hrelease
  -- whatever the body has come to, closing changes the phase of the cursor and nothing else
  have hrun : ((c.closing body).run s).2 = s' := by
    unfold closing
    rw [Program.run_bind, Program.run_attempt]
    cases (body.run s).1 with
    | ok b =>
      show ((c.close >>= fun _ => pure b).run (body.run s).2).2 = s'
      rw [Program.run_bind, hclose]
      rfl
    | error e =>
      show ((c.closeAfterFailure >>= fun _ => throw e).run (body.run s).2).2 = s'
      unfold closeAfterFailure
      rw [Program.bind_assoc, Program.run_bind, Program.run_attempt, hclose]
      rfl
  rw [hrun]
  exact Scene.changeCursor_sent _ _ _

/-- **Twins that are read to the end send the same requests,** apart from their limits: one for what
is left of a deadline and closed once more behind it, the other within a limit of its own. -/
theorem Twin.rest_requests {c c' : Cursor α} {s s₁ s₁' : Scene} (h : Twin (.unlimited s) c c')
    (hcap : c.requestLimit.MayLimit) (hcap' : c'.requestLimit.MayLimit) {deadline : Deadline}
    (hpending : ∀ k, deadline.Pending (s.timeAfter k)) {limit : Value} (hample : limit.Ample s)
    (hs : (Likeness.unlimited s).Scenes (Likeness.unlimited s).Level s₁ s₁') :
    ((c.closing (deadline.forRest c.toListWithin)).run s₁).2.sent.map Request.unlimited =
      ((c'.toListWithin limit).run s₁').2.sent.map Request.unlimited := by
  -- what is left of the deadline does not pass either
  obtain ⟨left, d, hleft, hstart, hpending⟩ :=
    Deadline.rest_of_pending hs.at_now hpending (some generalTimeoutLabel)
  obtain ⟨d', hstart', hpending'⟩ :=
    Deadline.starting_of_ample hs.at_now hample (some generalTimeoutLabel)
  have hlists : Program.Alike (.unlimited s) (Likeness.unlimited s).Level Eq
      (c.toListWithin ((limiting left.request).getD (.int 0))) (c'.toListWithin limit) s₁ s₁' := by
    refine h.toListWithin ?_ hs
    rw [hstart, hstart']
    exact .ok (timed_unlimited hpending hpending' hcap hcap')
  have hrest := Deadline.run_forRest c.toListWithin hleft
  rw [sent_closing, hrest]
  · exact hlists.2.sent.symm
  · rw [hrest]
    exact (Program.wp_alone _).1 (wp_toListWithin_closed hstart)

end Cursor

namespace Database

variable {d : Database} {q : Query} {mapper : Mapper α} {s : Scene}
  {general request timeout request' timeout' general' timeout'' : Option Int}

/-- **A query leads to the same cursor,** whatever its limits are. -/
theorem made_alike (d : Database) (q : Query) (mapper : Mapper α) (s : Scene)
    (limit limit' : TimeLimit) (requestLimit requestLimit' overallLimit overallLimit' : Value) :
    Program.Alike (.unlimited s) (Likeness.unlimited s).Level
      (fun c c' => ∃ ref, c = ⟨ref, d.service, mapper, requestLimit, overallLimit⟩ ∧
        c' = ⟨ref, d.service, mapper, requestLimit', overallLimit'⟩)
      (d.made q mapper limit requestLimit overallLimit)
      (d.made q mapper limit' requestLimit' overallLimit') s s := by
  have hservice : d.service.Twin (.unlimited s) d.service := QueryService.twin_refl _ rfl
  refine .bind (hservice.submit q rfl s.unlimited_refl) ?_
  rintro first _ s₁ s₁' rfl hs₁
  have hlimits : (Likeness.unlimited s).Limits ⟨requestLimit, .null, some requestTimeoutLabel⟩
      ⟨requestLimit', .null, some requestTimeoutLabel⟩ := rfl
  exact Cursor.opened_alike hservice hlimits first hs₁

/-- **A query sends the same requests as the list of a cursor,** apart from their limits. -/
theorem query_requests (hlimit : d.session.options.timeouts.request.MayLimit)
    (hample : (d.session.options.timeouts.overall general timeout).Ample s)
    (hample' : (d.session.options.timeouts.overall general' timeout'').Ample s) :
    ((d.query q mapper general request timeout).run s).2.sent.map Request.unlimited =
      ((d.cursor q mapper request' timeout' >>= fun c => c.toList general' timeout'').run
        s).2.sent.map Request.unlimited := by
  have hcap : (d.requestLimit request).MayLimit := TimeoutSettings.mayLimit_getD hlimit request
  obtain ⟨deadline, hstart, hpending⟩ :=
    Deadline.starting_of_ample s.moment_now hample (some generalTimeoutLabel)
  obtain ⟨limit, hremaining⟩ := Deadline.lasts_of_pending hpending hcap 0
  rw [s.timeAfter_zero] at hremaining
  rw [run_query hstart hremaining, cursor_eq, Program.run_bind, Program.run_bind]
  -- the submissions are alike, and if they fail nothing else is sent
  obtain ⟨hresults, hscenes⟩ := made_alike d q mapper s limit
    (d.session.limit request' timeout') (d.requestLimit request)
    (d.session.limit request' timeout').request .null d.session.options.timeouts.general
  cases hmade : (d.made q mapper limit (d.requestLimit request) .null).run s with
  | mk r s₁ =>
    cases hmade' : (d.made q mapper (d.session.limit request' timeout')
        (d.session.limit request' timeout').request
        d.session.options.timeouts.general).run s with
    | mk r' s₁' =>
      rw [hmade, hmade'] at hresults hscenes
      cases hresults with
      | error he => exact hscenes.sent.symm
      | @ok c c' hcc' =>
        obtain ⟨ref, rfl, rfl⟩ := hcc'
        have htwin : Cursor.Twin (.unlimited s)
            ⟨ref, d.service, mapper, d.requestLimit request, .null⟩
            ⟨ref, d.service, mapper, (d.session.limit request' timeout').request,
              d.session.options.timeouts.general⟩ :=
          ⟨rfl, rfl, QueryService.twin_refl _ rfl, rfl⟩
        exact htwin.rest_requests hcap
          (TimeoutSettings.mayLimit_singleLimit hlimit request' timeout') hpending hample' hscenes

/-- **Pagination is invisible.** A query can be submitted, and what limits its requests is a number.
For each result there is one thing that it comes to: the mapped items in order, or the failure that
names the first one that is not accepted. Whenever the server sends this result, however it divides
it into batches, every way of reading to the end comes to that. And a query that is read as a whole
sends the same requests as the list of a cursor, apart from their limits, whatever the server sends.
-/
theorem pagination_invisible {d : Database} {q : Query} {body : Option String}
    (hbody : (Value.ofNamed q.payload).encodePayload = .ok body)
    (hlimit : d.session.options.timeouts.request.MayLimit) (mapper : Mapper α) :
    (∀ items, ∃ whole, mapper.Makes items whole ∧ ∀ pages s, pages ≠ [] →
      pages.flatMap Batch.results = items → Batch.Paged pages → mapper.Serves pages s.script →
      (s.FailsBy fun e => e.isTransport = true) → d.ReadsAs q mapper s whole) ∧
    ∀ s general request timeout request' timeout' general' timeout'',
      (d.session.options.timeouts.overall general timeout).Ample s →
      (d.session.options.timeouts.overall general' timeout'').Ample s →
      ((d.query q mapper general request timeout).run s).2.sent.map Request.unlimited =
        ((d.cursor q mapper request' timeout' >>= fun c => c.toList general' timeout'').run
          s).2.sent.map Request.unlimited := by
  constructor
  · intro items
    refine ⟨_, mapper.makes_convert items, ?_⟩
    rintro pages s hpages rfl hpaged hserved hscript
    exact readsAs_served hpages hbody hpaged hserved hscript hlimit
  · intro s general request timeout request' timeout' general' timeout'' hample hample'
    exact query_requests hlimit hample hample'

/-- A query over three batches, the second of which is empty. -/
theorem pagination_invisible_specimen :
    ∃ (body : Option String) (pages : List Batch) (whole : Except Failure (List Value)),
      (Value.ofNamed Query.specimen.payload).encodePayload = .ok body ∧
      (specimen .async).session.options.timeouts.request.MayLimit ∧ pages ≠ [] ∧
      Batch.Paged pages ∧ Mapper.raw.Serves pages Scene.served.script ∧
      (Scene.served.FailsBy fun e => e.isTransport = true) ∧
      ((specimen .async).session.options.timeouts.overall none none).Ample Scene.served ∧
      Mapper.raw.Makes (pages.flatMap Batch.results) whole ∧
      (specimen .async).ReadsAs Query.specimen Mapper.raw Scene.served whole ∧
      (((specimen .async).query Query.specimen Mapper.raw none none none).run
          Scene.served).2.sent.map Request.unlimited =
        (((specimen .async).cursor Query.specimen Mapper.raw none none >>= fun c =>
          c.toList none none).run Scene.served).2.sent.map Request.unlimited := by
  obtain ⟨first, second, third, hpaged, -, -, hserves⟩ := Scene.served_pages
  obtain ⟨body, hbody⟩ := Query.specimen_written
  have hlimit : (specimen .async).session.options.timeouts.request.MayLimit :=
    fun u hu => nomatch hu
  have hample : ((specimen .async).session.options.timeouts.overall none none).Ample Scene.served :=
    .inl rfl
  have hscript : Scene.served.FailsBy fun e => e.isTransport = true :=
    Scene.failsBy_of_responses (by
      simp [Scene.served, Scene.start, Outcome.specimen, Outcome.page, Cursor.lastBatch,
        Playback.reply])
  obtain ⟨hreads, hrequests⟩ := pagination_invisible hbody hlimit Mapper.raw
  obtain ⟨whole, hmakes, hall⟩ := hreads ([first, second, third].flatMap Batch.results)
  have hpages : [first, second, third] ≠ [] := List.cons_ne_nil _ _
  exact ⟨body, [first, second, third], whole, hbody, hlimit, hpages, hpaged, hserves, hscript, hample,
    hmakes, hall _ _ hpages rfl hpaged hserves hscript,
    hrequests _ _ _ _ _ _ _ _ hample hample⟩

end Database

end AqlClient
