import AqlClient.Proofs.Program.Passing

/-!
# Programs that run alike

Two programs run alike if they start in scenes that look alike, come to results that look alike, and
leave scenes behind that look alike (`Program.Alike`). How closely one looks is a parameter, the
*likeness*: what is seen of a time limit, at which moments the runs may find themselves, and whether
they may be of different modes.

The log is never looked at. Neither is the mark by which an asynchronous cursor knows that a batch
is on its way, which leaves no trace behind the fetch it is set for. How the states of the cursors
have to be related is a further parameter, because an exchange does not depend on them at all.

There is one lemma for each way of putting programs together (`Program.Alike.bind`,
`Program.Alike.attempt`), and one for a request (`Program.Alike.send`), from which those on gateways
and query services follow.
-/

namespace AqlClient

variable {α β γ δ : Type}

/-- **How closely two runs are compared:** what is seen of a time limit, at which moments the runs
may find themselves, and whether they may be of different modes. -/
structure Likeness where
  seen : TimeLimit → TimeLimit
  moment : Int → Prop
  mixed : Prop

namespace Likeness

variable (K : Likeness)

/-- Two limits look alike where they are attached to a request. -/
def Limits (limit limit' : TimeLimit) : Prop := K.seen limit.attached = K.seen limit'.attached

/-- A request, as it is seen. -/
def request (q : Request) : Request := { q with limit := K.seen q.limit }

/-- An event, as it is seen: the mark for a fetch is not. -/
def event? : Event → Option Event
  | .sent time q => some (.sent time (K.request q))
  | .made ref => some (.made ref)
  | .cursor ref change =>
    match change with
    | .fetching _ => none
    | change => some (.cursor ref change)

/-- **Failures that look alike:** they are the same, but for what is not seen of the limit of a
request that has timed out. -/
inductive Failures : Failure → Failure → Prop
  | same (e : Failure) : Failures e e
  | exchange (part : TimeoutPart) (text : String) (url body : Option String)
      {limit limit' : TimeLimit} : K.seen limit = K.seen limit' →
      Failures (.timeout (.exchange part text limit url body))
        (.timeout (.exchange part text limit' url body))

theorem Failures.isClientError {K : Likeness} {e e' : Failure} (h : K.Failures e e') :
    e'.isClientError = e.isClientError := by
  cases h <;> rfl

/-- Results that look alike. -/
inductive Results (R : α → β → Prop) : Except Failure α → Except Failure β → Prop
  | ok {a : α} {b : β} : R a b → Results R (.ok a) (.ok b)
  | error {e e' : Failure} : K.Failures e e' → Results R (.error e) (.error e')

variable {K} in
theorem Results.mono {R R' : α → β → Prop} {r : Except Failure α} {r' : Except Failure β}
    (h : K.Results R r r') (hR : ∀ a b, R a b → R' a b) : K.Results R' r r' := by
  cases h with
  | ok hab => exact .ok (hR _ _ hab)
  | error he => exact .error he

theorem Results.refl {R : α → α → Prop} (hR : ∀ a, R a a) (r : Except Failure α) :
    K.Results R r r := by
  cases r with
  | ok a => exact .ok (hR a)
  | error e => exact .error (.same e)

/-- **Scenes that look alike.** The states of the cursors are related as the caller has it. -/
structure Scenes (C : (Nat → CursorState) → (Nat → CursorState) → Prop) (s s' : Scene) : Prop where
  now : s'.now = s.now
  script : s'.script = s.script
  history : s'.history.filterMap K.event? = s.history.filterMap K.event?
  cursors : C s.cursors s'.cursors
  cursorCount : s'.cursorCount = s.cursorCount
  sessionCount : s'.sessionCount = s.sessionCount
  closes : s'.closes = s.closes
  journal : s'.journal = s.journal
  moments : ∀ number, K.moment (s.timeAfter number)

namespace Scenes

variable {K} {C : (Nat → CursorState) → (Nat → CursorState) → Prop} {s s' : Scene}

theorem at_now (h : K.Scenes C s s') : K.moment s.now := by
  rw [← s.timeAfter_zero]
  exact h.moments 0

/-- Loops go on for the same number of rounds. -/
theorem horizon (h : K.Scenes C s s') : s'.horizon = s.horizon := congrArg (·.length + 2) h.script

/-- Nothing is seen of the log. -/
theorem log (h : K.Scenes C s s') (lines lines' : List LogLine) :
    K.Scenes C { s with log := lines } { s' with log := lines' } :=
  ⟨h.now, h.script, h.history, h.cursors, h.cursorCount, h.sessionCount, h.closes, h.journal,
    h.moments⟩

/-- The cursors may be related in another way. -/
theorem withCursors {C' : (Nat → CursorState) → (Nat → CursorState) → Prop} (h : K.Scenes C s s')
    (hC : C' s.cursors s'.cursors) : K.Scenes C' s s' :=
  ⟨h.now, h.script, h.history, hC, h.cursorCount, h.sessionCount, h.closes, h.journal, h.moments⟩

/-- Where events that look alike are remembered, the histories keep looking alike. -/
theorem history_append (h : K.Scenes C s s') {events events' : List Event}
    (hevents : events'.filterMap K.event? = events.filterMap K.event?) :
    (s'.history ++ events').filterMap K.event? = (s.history ++ events).filterMap K.event? := by
  rw [List.filterMap_append, List.filterMap_append, h.history, hevents]

theorem addSession (h : K.Scenes C s s') : K.Scenes C s.addSession s'.addSession where
  now := h.now
  script := h.script
  history := h.history
  cursors := h.cursors
  cursorCount := h.cursorCount
  sessionCount := congrArg Nat.succ h.sessionCount
  closes := h.closes
  journal := h.journal
  moments := h.moments

theorem closeTransport (h : K.Scenes C s s') : K.Scenes C s.closeTransport s'.closeTransport where
  now := h.now
  script := h.script
  history := h.history
  cursors := h.cursors
  cursorCount := h.cursorCount
  sessionCount := h.sessionCount
  closes := congrArg Nat.succ h.closes
  journal := h.journal
  moments := h.moments

theorem note (h : K.Scenes C s s') (ref : Nat) (remark : Value) :
    K.Scenes C (s.note ref remark) (s'.note ref remark) where
  now := h.now
  script := h.script
  history := h.history
  cursors := h.cursors
  cursorCount := h.cursorCount
  sessionCount := h.sessionCount
  closes := h.closes
  journal := by
    show (fun r => if r = ref then s'.journal r ++ [remark] else s'.journal r) = _
    rw [h.journal]
    rfl
  moments := h.moments

/-- Time may pass where all moments will do. -/
theorem elapse (h : K.Scenes C s s') (hK : ∀ time, K.moment time) (ms : Int) :
    K.Scenes C (s.elapse ms) (s'.elapse ms) where
  now := congrArg (· + ms) h.now
  script := h.script
  history := h.history
  cursors := h.cursors
  cursorCount := h.cursorCount
  sessionCount := h.sessionCount
  closes := h.closes
  journal := h.journal
  moments _ := hK _

/-- **One exchange** leads from scenes that look alike to scenes that look alike. -/
theorem play (h : K.Scenes C s s') {q q' : Request} (hq : K.request q' = K.request q) :
    K.Scenes C (s.play q).2 (s'.play q').2 := by
  have hpassed : s.Exchanged q (s.play q).2 := Scene.exchanged_of_unlogged rfl
  refine ⟨?_, ?_, ?_, h.cursors, h.cursorCount, h.sessionCount, h.closes, h.journal, fun n => ?_⟩
  · show s'.now + (s'.script.headD .scriptEnd).elapsed = s.now + (s.script.headD .scriptEnd).elapsed
    rw [h.now, h.script]
  · show s'.script.tail = s.script.tail
    rw [h.script]
  · refine h.history_append ?_
    show [Event.sent s'.now (K.request q')] = [Event.sent s.now (K.request q)]
    rw [h.now, hq]
  · rw [hpassed.time]
    exact h.moments _

/-- The replies to requests that look alike look alike. -/
theorem reply (h : K.Scenes C s s') {q q' : Request} (hq : K.request q' = K.request q) :
    K.Results Eq (s.play q).1 (s'.play q').1 := by
  show K.Results Eq ((s.script.headD .scriptEnd).playback.reply q)
    ((s'.script.headD .scriptEnd).playback.reply q')
  rw [h.script]
  have hurl : q'.url = q.url := (congrArg Request.url hq :)
  have hbody : q'.body = q.body := (congrArg Request.body hq :)
  cases (s.script.headD .scriptEnd).playback with
  | response status headers body => exact .ok rfl
  | lost text =>
    show K.Results Eq _ (.error (.transport (.lost text (some q'.url) q'.body)))
    rw [hurl, hbody]
    exact .error (.same _)
  | timedOut part text =>
    show K.Results Eq _ (.error (.timeout (.exchange part text q'.limit (some q'.url) q'.body)))
    rw [hurl, hbody]
    exact .error (.exchange part text _ _ (congrArg Request.limit hq :).symm)
  | broken text => exact .error (.same _)

/-- Where scenes look alike, the requests that have been sent look alike. -/
theorem sent (h : K.Scenes C s s') : s'.sent.map K.request = s.sent.map K.request := by
  -- the events that are not seen are no requests
  have hsent : ∀ history : List Event, (history.filterMap Event.request?).map K.request =
      (history.filterMap K.event?).filterMap Event.request? := by
    intro history
    rw [List.filterMap_filterMap, List.map_filterMap]
    congr 1
    funext e
    cases e with
    | sent time q => rfl
    | made ref => rfl
    | cursor ref change => cases change <;> rfl
  unfold Scene.sent
  rw [hsent, hsent, h.history]

end Scenes

end Likeness

namespace Program

variable {K : Likeness} {C : (Nat → CursorState) → (Nat → CursorState) → Prop}
  {R : α → β → Prop} {T : γ → δ → Prop} {s s' : Scene}

/-- **Two programs run alike** from two scenes. -/
def Alike (K : Likeness) (C : (Nat → CursorState) → (Nat → CursorState) → Prop) (R : α → β → Prop)
    (p : Program α) (p' : Program β) (s s' : Scene) : Prop :=
  K.Results R (p.run s).1 (p'.run s').1 ∧ K.Scenes C (p.run s).2 (p'.run s').2

namespace Alike

theorem ofExcept {r : Except Failure α} {r' : Except Failure β} (h : K.Scenes C s s')
    (hr : K.Results R r r') : Alike K C R (Program.ofExcept r) (Program.ofExcept r') s s' :=
  ⟨hr, h⟩

theorem pure {a : α} {b : β} (h : K.Scenes C s s') (hR : R a b) :
    Alike K C R (pure a) (pure b) s s' :=
  ⟨.ok hR, h⟩

theorem throw {e e' : Failure} (h : K.Scenes C s s') (he : K.Failures e e') :
    Alike K C R (throw e) (throw e') s s' :=
  ⟨.error he, h⟩

/-- Results that look alike still do so where less is asked of them. -/
theorem mono {R' : α → β → Prop} {p : Program α} {p' : Program β} (h : Alike K C R p p' s s')
    (hR : ∀ a b, R a b → R' a b) : Alike K C R' p p' s s' :=
  ⟨h.1.mono hR, h.2⟩

/-- **One program after another:** the rest runs alike from wherever the first parts lead. -/
theorem bind {p : Program α} {p' : Program β} {f : α → Program γ} {f' : β → Program δ}
    (hp : Alike K C R p p' s s')
    (hf : ∀ a b s₁ s₁', R a b → K.Scenes C s₁ s₁' → Alike K C T (f a) (f' b) s₁ s₁') :
    Alike K C T (p >>= f) (p' >>= f') s s' := by
  obtain ⟨hresults, hscenes⟩ := hp
  unfold Alike
  rw [run_bind, run_bind]
  cases hrun : p.run s with
  | mk r s₁ =>
    cases hrun' : p'.run s' with
    | mk r' s₁' =>
      rw [hrun, hrun'] at hresults hscenes
      cases hresults with
      | ok hab => exact hf _ _ s₁ s₁' hab hscenes
      | error he => exact ⟨.error he, hscenes⟩

/-- What programs give that run alike may be put into other words. -/
theorem returning {p p' : Program α} (h : Alike K C Eq p p' s s') (f : α → β) :
    Alike K C Eq (do return f (← p)) (do return f (← p')) s s' := by
  refine h.bind ?_
  rintro a _ s₁ s₁' rfl hs₁
  exact .pure hs₁ rfl

theorem attempt {p : Program α} {p' : Program β} (hp : Alike K C R p p' s s') :
    Alike K C (K.Results R) p.attempt p'.attempt s s' := by
  unfold Alike
  rw [run_attempt, run_attempt]
  exact ⟨.ok hp.1, hp.2⟩

theorem now (h : K.Scenes C s s') : Alike K C Eq Program.now Program.now s s' :=
  ⟨.ok h.now.symm, h⟩

/-- What depends on the clock comes out alike. -/
theorem byClock {f : Int → Except Failure α} {next : α → Program γ} {next' : α → Program δ}
    (h : K.Scenes C s s')
    (hnext : ∀ a {s₁ s₁'}, K.Scenes C s₁ s₁' → Alike K C T (next a) (next' a) s₁ s₁') :
    Alike K C T (do let a ← Program.ofExcept (f (← Program.now)); next a)
      (do let a ← Program.ofExcept (f (← Program.now)); next' a) s s' := by
  refine .bind (.now h) ?_
  rintro now _ s₁ s₁' rfl hs₁
  refine .bind (.ofExcept hs₁ (.refl K (fun _ => rfl) (f now))) ?_
  rintro a _ s₂ s₂' rfl hs₂
  exact hnext a hs₂

/-- What is logged is not seen. -/
theorem lines (h : K.Scenes C s s') (level level' : LogLevel) (text : α → String)
    (text' : β → String) (items : List α) (items' : List β) :
    Alike K C Eq (each items fun a => record level (text a))
      (each items' fun b => record level' (text' b)) s s' := by
  -- lines are added to the log, however many there are, and nothing else changes
  have hrun : ∀ {ε : Type} (level : LogLevel) (text : ε → String) (items : List ε) (s : Scene),
      ∃ log, (each items fun a => record level (text a)).run s = (.ok (), { s with log := log }) := by
    intro ε level text items
    induction items with
    | nil => exact fun s => ⟨s.log, rfl⟩
    | cons a rest ih =>
      intro s
      obtain ⟨log, hlog⟩ := ih (s.record level (text a))
      exact ⟨log, hlog⟩
  obtain ⟨log, hlog⟩ := hrun level text items s
  obtain ⟨log', hlog'⟩ := hrun level' text' items' s'
  unfold Alike
  rw [hlog, hlog']
  exact ⟨.ok rfl, h.log log log'⟩

theorem record (h : K.Scenes C s s') (level level' : LogLevel) (text text' : String) :
    Alike K C Eq (Program.record level text) (Program.record level' text') s s' :=
  ⟨.ok rfl, h.log _ _⟩

/-- **Requests that look alike are answered alike.** -/
theorem send (h : K.Scenes C s s') {q q' : Request} (hq : K.request q' = K.request q) :
    Alike K C Eq (Program.send q) (Program.send q') s s' :=
  ⟨h.reply hq, h.play hq⟩

end Alike

end Program

/-! ### Gateways -/

/-- Two gateways address the server in the same way, each in a mode of its own. -/
structure Gateway.Twin (g : Gateway) (mode : Mode) (g' : Gateway) (mode' : Mode) : Prop where
  channel : g.channel = some mode
  same : g' = { g with channel := some mode' }

/-- Two calls look alike: they may differ in what is not seen of their limits. -/
def Likeness.Calls (K : Likeness) (call call' : Call) : Prop :=
  ∃ limit, call' = { call with limit := limit } ∧ K.Limits call.limit limit

theorem Likeness.Calls.refl (K : Likeness) (call : Call) : K.Calls call call := ⟨_, rfl, rfl⟩

namespace Gateway.Twin

open Program (Alike)

variable {K : Likeness} {C : (Nat → CursorState) → (Nat → CursorState) → Prop} {s s' : Scene}
  {g g' : Gateway} {mode mode' : Mode} {call call' : Call}

theorem channel' (h : g.Twin mode g' mode') : g'.channel = some mode' := by rw [h.same]

/-- The requests of twins look alike. -/
theorem request_eq (h : g.Twin mode g' mode') (hcall : K.Calls call call')
    (body : Option String) :
    K.request (g'.requestFor call' body) = K.request (g.requestFor call body) := by
  obtain ⟨limit, rfl, hlimit⟩ := hcall
  have hseen : K.seen limit.attached = K.seen call.limit.attached := hlimit.symm
  rw [h.same]
  show ({ g.requestFor call body with limit := K.seen limit.attached } : Request) =
    { g.requestFor call body with limit := K.seen call.limit.attached }
  rw [hseen]

theorem exchange (h : g.Twin mode g' mode') (hcall : K.Calls call call') (hs : K.Scenes C s s') :
    Alike K C Eq (g.exchange mode call) (g'.exchange mode' call') s s' := by
  have hpayload : call'.payload = call.payload := by
    obtain ⟨limit, rfl, -⟩ := hcall
    rfl
  unfold Gateway.exchange
  rw [if_neg fun hne => hne h.channel, if_neg fun hne => hne h.channel', hpayload]
  refine .bind (.ofExcept hs (.refl K (fun _ => rfl) call.payload.encodePayload)) ?_
  rintro body _ s₁ s₁' rfl hs₁
  refine .bind (.lines hs₁ _ _ _ _ _ _) ?_
  rintro _ _ s₂ s₂' - hs₂
  refine .bind (.send hs₂ (h.request_eq hcall body)) ?_
  rintro response _ s₃ s₃' rfl hs₃
  exact .bind (.lines hs₃ _ _ _ _ _ _) fun _ _ _ _ _ hs₄ => .pure hs₄ rfl

theorem readEnvelope (hs : K.Scenes C s s') (response : Response) (description : Option String) :
    Alike K C Eq (Gateway.readEnvelope response description)
      (Gateway.readEnvelope response description) s s' := by
  unfold Gateway.readEnvelope
  split
  · exact .pure hs rfl
  · exact .bind (.lines hs _ _ _ _ _ _) fun _ _ _ _ _ hs₁ => .throw hs₁ (.same _)

/-- **Calls that look alike are answered alike.** -/
theorem request (h : g.Twin mode g' mode') (hcall : K.Calls call call') (hs : K.Scenes C s s') :
    Alike K C Eq (g.request mode call) (g'.request mode' call') s s' := by
  have hdescription : g'.callDescription call' = g.callDescription call := by
    obtain ⟨limit, rfl, -⟩ := hcall
    rw [h.same]
    rfl
  unfold Gateway.request
  refine .bind (h.exchange hcall hs) ?_
  rintro response _ s₁ s₁' rfl hs₁
  rw [hdescription]
  exact readEnvelope hs₁ response _

end Gateway.Twin

/-! ### Query services -/

/-- Two query services send requests that look alike. -/
structure QueryService.Twin (K : Likeness) (service service' : QueryService) : Prop where
  gateway : service.gateway.Twin service.mode service'.gateway service'.mode
  mode : service'.mode = service.mode ∨ K.mixed

/-- A query service with a channel of its own mode is a twin of itself. -/
theorem QueryService.twin_refl (K : Likeness) {service : QueryService}
    (h : service.gateway.channel = some service.mode) : service.Twin K service where
  gateway := ⟨h, by rw [← h]⟩
  mode := .inl rfl

namespace QueryService.Twin

open Program (Alike)

variable {K : Likeness} {C : (Nat → CursorState) → (Nat → CursorState) → Prop} {s s' : Scene}
  {service service' : QueryService} {limit limit' : TimeLimit}

variable (h : service.Twin K service')

include h

/-- What comes behind the request of a query or of a fetch runs alike. -/
theorem readBatch {call call' : Call} (hcall : K.Calls call call') (hs : K.Scenes C s s')
    (before before' after after' : String) :
    Alike K C Eq
      (do service.report before
          let envelope ← service.gateway.request service.mode call
          service.report after
          Program.ofExcept (Batch.ofEnvelope envelope))
      (do service'.report before'
          let envelope ← service'.gateway.request service'.mode call'
          service'.report after'
          Program.ofExcept (Batch.ofEnvelope envelope)) s s' := by
  refine .bind (.record hs _ _ _ _) ?_
  rintro _ _ s₁ s₁' - hs₁
  refine .bind (h.gateway.request hcall hs₁) ?_
  rintro envelope _ s₂ s₂' rfl hs₂
  refine .bind (.record hs₂ _ _ _ _) ?_
  rintro _ _ s₃ s₃' - hs₃
  exact .ofExcept hs₃ (.refl K (fun _ => rfl) _)

theorem submit (q : Query) (hlimit : K.Limits limit limit') (hs : K.Scenes C s s') :
    Alike K C Eq (service.submit q limit) (service'.submit q limit') s s' :=
  h.readBatch ⟨_, rfl, hlimit⟩ hs _ _ _ _

theorem fetch (id : String) (hlimit : K.Limits limit limit') (hs : K.Scenes C s s') :
    Alike K C Eq (service.fetch id limit) (service'.fetch id limit') s s' :=
  h.readBatch ⟨_, rfl, hlimit⟩ hs _ _ _ _

theorem release (id : String) (hlimit : K.Limits limit limit') (hs : K.Scenes C s s') :
    Alike K C Eq (service.release id limit) (service'.release id limit') s s' := by
  unfold QueryService.release
  refine .bind (.record hs _ _ _ _) ?_
  rintro _ _ s₁ s₁' - hs₁
  refine .bind (h.gateway.request ⟨_, rfl, hlimit⟩ hs₁).attempt ?_
  rintro r r' s₂ s₂' hr hs₂
  cases hr with
  | ok _ => exact .record hs₂ _ _ _ _
  | @error e _ he =>
    cases he with
    | exchange part text url body hseen => exact .throw hs₂ (.exchange part text url body hseen)
    | same =>
      cases e with
      | server e =>
        -- a cursor that is gone has been released, in both runs or in none
        show Alike K C Eq (if e.saysCursorGone = true then _ else _)
          (if e.saysCursorGone = true then _ else _) s₂ s₂'
        split
        · exact .record hs₂ _ _ _ _
        · exact .throw hs₂ (.same _)
      | _ => exact .throw hs₂ (.same _)

end QueryService.Twin

end AqlClient
