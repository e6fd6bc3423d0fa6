import AqlClient.Proofs.Program.Logic
import AqlClient.Query.Service

/-!
# Reasoning about exchanges

Around each exchange a gateway and a query service log what they do. None of that matters to
a predicate that does not speak of the log (`Logless`), so that a call comes down to the one
request that it sends: with `I` before the request and `J` behind it, the call ends in `J`, or
it has failed before the request was sent and ends in `I` (`Program.Reaches`,
`Gateway.wp_exchange`, `Gateway.wp_request`, `QueryService.wp_submit`, `QueryService.wp_fetch`,
`QueryService.wp_release`).
-/

namespace AqlClient

variable {ω : Type}

/-- A predicate that does not speak of the log. -/
def Logless (I : ω → Scene → Prop) : Prop :=
  ∀ ⦃w s⦄ level text, I w s → I w (s.record level text)

variable {D : Discipline ω} {I J : ω → Scene → Prop} {w : ω} {s : Scene}

theorem logless_true : Logless fun (_ : ω) _ => True := fun _ _ _ _ _ => trivial

theorem Logless.or (hI : Logless I) (hJ : Logless J) : Logless fun w s => I w s ∨ J w s :=
  fun _ _ level text h => h.imp (hI level text) (hJ level text)

/-- Logging some lines always ends well, and keeps a predicate that does not speak of the
log. -/
theorem Program.wp_lines {α : Type} (hI : Logless I) (level : LogLevel) (text : α → String)
    (items : List α) (h : I w s) :
    (Program.each items fun a => Program.record level (text a)).wp D
      (fun r w s => r = .ok () ∧ I w s) w s := by
  induction items generalizing s with
  | nil => exact ⟨rfl, h⟩
  | cons a rest ih =>
    unfold Program.each Program.record
    rw [Program.wp_update_bind]
    exact ih (hI level (text a) h)

/-- A program that first logs some lines goes on behind them. -/
theorem Program.wp_lines_bind {α β : Type} {Q : Except Failure β → ω → Scene → Prop}
    (hI : Logless I) (level : LogLevel) (text : α → String) (items : List α)
    {k : Unit → Program β} (h : I w s) (hk : ∀ w s, I w s → (k ()).wp D Q w s) :
    ((Program.each items fun a => Program.record level (text a)) >>= k).wp D Q w s := by
  refine Program.wp_seq (Program.wp_lines hI level text items h) ?_ ?_
  · exact fun _ w s hlogged => hk w s hlogged.2
  · exact fun _ _ _ hfailed => nomatch hfailed.1

/-- How a call ends: behind its request, or with a failure before it. -/
def Program.Reaches {α : Type} (I J : ω → Scene → Prop) (r : Except Failure α) (w : ω)
    (s : Scene) : Prop :=
  J w s ∨ (I w s ∧ ∃ e, r = .error e)

/-- A program that fails behind a call has ended as the call has. -/
theorem Program.Reaches.error {α β : Type} {e : Failure}
    (h : Program.Reaches I J (.error e : Except Failure α) w s) :
    Program.Reaches I J (.error e : Except Failure β) w s := by
  obtain hj | ⟨hi, -⟩ := h
  · exact .inl hj
  · exact .inr ⟨hi, e, rfl⟩

/-- A call that gave something has sent its request. -/
theorem Program.Reaches.ok {α : Type} {a : α}
    (h : Program.Reaches I J (.ok a : Except Failure α) w s) : J w s := by
  obtain hj | ⟨-, e, he⟩ := h
  · exact hj
  · cases he

theorem Program.Reaches.or {α : Type} {r : Except Failure α} (h : Program.Reaches I J r w s) :
    I w s ∨ J w s := by
  obtain hj | ⟨hi, -⟩ := h
  · exact .inr hj
  · exact .inl hi

/-- The requests of a call may be sent where `I` holds, and `J` holds when the reply is back. -/
def Gateway.Carries (g : Gateway) (D : Discipline ω) (I J : ω → Scene → Prop) (call : Call) :
    Prop :=
  ∀ body w s, I w s → D.may w s (g.requestFor call body) ∧
    ∀ w' reply s', D.back w s (g.requestFor call body) w' reply s' → J w' s'

namespace Gateway

variable {g : Gateway} {call : Call}

/-- The exchange of a call whose payload can be written: the request is sent for certain. -/
theorem wp_exchange_written (hI : Logless I) (hJ : Logless J) (hc : g.Carries D I J call)
    (body : Option String) (h : I w s) :
    (do let q := g.requestFor call body
        Program.each (g.requestLines q) (Program.record .debug)
        let response ← Program.send q
        Program.each (responseLines response) (Program.record .debug)
        return response).wp D (fun _ w s => J w s) w s := by
  refine Program.wp_lines_bind hI _ _ _ h fun w s h => ?_
  obtain ⟨hmay, hback⟩ := hc body w s h
  rw [Program.wp_bind, Program.wp_send]
  refine ⟨hmay, fun w' reply s' hreply => ?_⟩
  have hj : J w' s' := hback w' reply s' hreply
  cases reply with
  | error e => exact hj
  | ok response => exact Program.wp_lines_bind hJ _ _ _ hj fun _ _ hj => hj

theorem wp_exchange (hI : Logless I) (hJ : Logless J) (hc : g.Carries D I J call) (mode : Mode)
    (h : I w s) : (g.exchange mode call).wp D (Program.Reaches I J) w s := by
  unfold exchange
  split
  · -- without a channel nothing is sent, and neither is a payload that cannot be written
    exact .inr ⟨h, _, rfl⟩
  · rw [Program.wp_bind, Program.wp_ofExcept]
    cases call.payload.encodePayload with
    | error e => exact .inr ⟨h, e, rfl⟩
    | ok body =>
      exact Program.wp_mono (wp_exchange_written hI hJ hc body h) fun _ _ _ hj => .inl hj

/-- Reading an envelope does nothing but log a refusal. -/
theorem wp_readEnvelope (hI : Logless I) (response : Response) (desc : Option String)
    (h : I w s) : (readEnvelope response desc).wp D (fun _ w s => I w s) w s := by
  unfold readEnvelope
  split
  · exact h
  · exact Program.wp_lines_bind hI _ _ _ h fun _ _ h => h

theorem wp_request (hI : Logless I) (hJ : Logless J) (hc : g.Carries D I J call) (mode : Mode)
    (h : I w s) : (g.request mode call).wp D (Program.Reaches I J) w s := by
  unfold request
  refine Program.wp_seq (wp_exchange hI hJ hc mode h) ?_ fun _ _ _ h => h.error
  intro response w s h
  exact Program.wp_mono (wp_readEnvelope hJ response _ h.ok) fun _ _ _ hj => .inl hj

/-- A call without a payload is sent for certain, if there is a channel for it. -/
theorem wp_request_sent (hI : Logless I) (hJ : Logless J) (hc : g.Carries D I J call)
    {mode : Mode} (hchannel : g.channel = some mode) (hpayload : call.payload = .null)
    (h : I w s) : (g.request mode call).wp D (fun _ w s => J w s) w s := by
  have hexchange : (g.exchange mode call).wp D (fun _ w s => J w s) w s := by
    unfold exchange
    rw [if_neg fun hne => hne hchannel, hpayload]
    exact wp_exchange_written hI hJ hc none h
  unfold request
  exact Program.wp_seq hexchange (fun response w s hj => wp_readEnvelope hJ response _ hj)
    fun _ _ _ hj => hj

end Gateway

namespace QueryService

variable {q : QueryService} {id : String} {limit : TimeLimit}

theorem wp_report (text : String) (Q : Except Failure Unit → ω → Scene → Prop) :
    (q.report text).wp D Q w s ↔ Q (.ok ()) w (s.record .info (text ++ q.mode.logEnding)) :=
  Iff.rfl

theorem wp_report_bind {β : Type} (text : String) (k : Unit → Program β)
    (Q : Except Failure β → ω → Scene → Prop) :
    (q.report text >>= k).wp D Q w s ↔
      (k ()).wp D Q w (s.record .info (text ++ q.mode.logEnding)) :=
  Iff.rfl

/-- What comes behind the request of a query or of a fetch: a line is logged, and the batch is
read from the envelope. -/
theorem wp_readBatch (hI : Logless I) (hJ : Logless J) {call : Call}
    (hc : q.gateway.Carries D I J call) (h : I w s) (text : String) :
    (do let envelope ← q.gateway.request q.mode call
        q.report text
        Program.ofExcept (Batch.ofEnvelope envelope)).wp D (Program.Reaches I J) w s := by
  refine Program.wp_seq (Gateway.wp_request hI hJ hc _ h) ?_ fun _ _ _ h => h.error
  intro envelope w s h
  rw [wp_report_bind]
  exact .inl (hJ _ _ h.ok)

theorem wp_submit {query : Query} (hI : Logless I) (hJ : Logless J)
    (hc : q.gateway.Carries D I J (submission query limit)) (h : I w s) :
    (q.submit query limit).wp D (Program.Reaches I J) w s := by
  unfold submit
  rw [wp_report_bind]
  exact wp_readBatch hI hJ hc (hI _ _ h) _

theorem wp_fetch (hI : Logless I) (hJ : Logless J)
    (hc : q.gateway.Carries D I J (cursorCall "PUT" id limit)) (h : I w s) :
    (q.fetch id limit).wp D (Program.Reaches I J) w s := by
  unfold fetch
  rw [wp_report_bind]
  exact wp_readBatch hI hJ hc (hI _ _ h) _

/-- A fetch is sent for certain, if there is a channel for it. -/
theorem wp_fetch_sent (hI : Logless I) (hJ : Logless J)
    (hc : q.gateway.Carries D I J (cursorCall "PUT" id limit))
    (hchannel : q.gateway.channel = some q.mode) (h : I w s) :
    (q.fetch id limit).wp D (fun _ w s => J w s) w s := by
  unfold fetch
  rw [wp_report_bind]
  refine Program.wp_seq (Gateway.wp_request_sent hI hJ hc hchannel rfl (hI _ _ h)) ?_
    fun _ _ _ hj => hj
  intro envelope w s hj
  rw [wp_report_bind]
  exact hJ _ _ hj

/-- What comes behind the request of a release: it is logged if it went well, and if the server knew
of no cursor any more. -/
theorem wp_release_of {J : ω → Scene → Prop} (hJ : Logless J)
    (hrequest : ∀ {s}, I w s → (q.gateway.request q.mode (cursorCall "DELETE" id limit)).wp D
      (fun _ w s => J w s) w s) (hI : Logless I) (h : I w s) :
    (q.release id limit).wp D (fun _ w s => J w s) w s := by
  unfold release
  rw [wp_report_bind, Program.wp_attempt_bind]
  refine Program.wp_mono (hrequest (hI _ _ h)) fun r w s h => ?_
  split
  · exact (wp_report _ _).2 (hJ _ _ h)
  · split
    · exact hJ .info _ h
    · exact h
  · exact h

theorem wp_release (hI : Logless I) (hJ : Logless J)
    (hc : q.gateway.Carries D I J (cursorCall "DELETE" id limit)) (h : I w s) :
    (q.release id limit).wp D (fun _ w s => I w s ∨ J w s) w s :=
  wp_release_of (hI.or hJ) (fun h => Program.wp_mono (Gateway.wp_request hI hJ hc _ h)
    fun _ _ _ hr => hr.or) hI h

/-- A release is sent for certain, if there is a channel for it. -/
theorem wp_release_sent (hI : Logless I) (hJ : Logless J)
    (hc : q.gateway.Carries D I J (cursorCall "DELETE" id limit))
    (hchannel : q.gateway.channel = some q.mode) (h : I w s) :
    (q.release id limit).wp D (fun _ w s => J w s) w s :=
  wp_release_of hJ (fun h => Gateway.wp_request_sent hI hJ hc hchannel rfl h) hI h

end QueryService

end AqlClient
