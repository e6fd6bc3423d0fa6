import AqlClient.Proofs.Envelope
import AqlClient.Proofs.Program.Sending

/-!
# What a program says of timeouts

A timeout that comes back from an exchange carries the limit of the request
(`Request.Explains`). Where nothing more is relied on (`Discipline.candid`), it can be told of a
program which requests it sends and with which timeouts it fails (`Program.Reports`), whoever else is
at work meanwhile and however long it takes. All other failures are of no concern here. A program
that is carried out on its own has sent such requests, and has failed with such a timeout if with any
(`Program.Reports.run`).

To report something from every scene is to uphold an invariant that always holds
(`Program.reports_iff_upholds`), so that what is known of loops can be used.
-/

namespace AqlClient

variable {α β : Type} {may : Request → Prop} {tells : Timeout → Prop} {s : Scene}

/-- **A request explains a failure of its exchange:** if that is a timeout, it carries the limit of
the request. -/
def Request.Explains (q : Request) (e : Failure) : Prop :=
  ∀ t, e = .timeout t → ∃ part text endpoint payload,
    t = .exchange part text q.limit endpoint payload

/-- A script fails in no other ways. -/
theorem Playback.reply_explained {p : Playback} {q : Request} {e : Failure}
    (h : p.reply q = .error e) : q.Explains e := by
  rintro t rfl
  cases p with
  | timedOut part text =>
    cases h
    exact ⟨part, text, some q.url, q.body, rfl⟩
  | response status headers body => cases h
  | lost text => cases h
  | broken text => cases h

/-- Anything may come back from an exchange, and to any scene, but the request explains the
failures of its exchange. -/
def Discipline.candid (may : Request → Prop) : Discipline Unit where
  may _ _ q := may q
  back _ _ q _ reply _ := ∀ e, reply = .error e → q.Explains e

/-- A failure that is a timeout only if it is one of some kind. -/
def Failure.Tells (tells : Timeout → Prop) (e : Failure) : Prop := ∀ t, e = .timeout t → tells t

theorem Failure.Tells.of_ne {e : Failure} (h : ∀ t, e ≠ .timeout t) : e.Tells tells :=
  fun t ht => absurd ht (h t)

/-- What tells of an answer is no timeout. -/
theorem Readable.tellsOf {r : Except Failure β} (h : Readable r) {e : Failure}
    (he : r = .error e) : e.Tells tells := by
  rintro t rfl
  cases h _ he

namespace Program

/-- **The requests of a program are of some kind, and so are its timeouts,** whatever comes back from
its exchanges. -/
def Reports (may : Request → Prop) (tells : Timeout → Prop) (p : Program α) (s : Scene) : Prop :=
  p.wp (.candid may) (Kept (fun _ _ => True) (Failure.Tells tells)) () s

theorem reports_iff_upholds {p : Program α} : (∀ s, p.Reports may tells s) ↔
    p.Upholds (.candid may) (fun _ _ => True) (Failure.Tells tells) :=
  ⟨fun h _ s _ => h s, fun h _ => h trivial⟩

namespace Reports

theorem ok (a : α) : (pure a : Program α).Reports may tells s :=
  ⟨trivial, fun _ he => nomatch he⟩

theorem error {e : Failure} (he : e.Tells tells) : (throw e : Program α).Reports may tells s := by
  refine ⟨trivial, ?_⟩
  rintro _ ⟨⟩
  exact he

theorem ofExcept {r : Except Failure α} (hr : ∀ e, r = .error e → e.Tells tells) :
    (ofExcept r).Reports may tells s :=
  ⟨trivial, hr⟩

theorem view (f : Scene → α) : (view f).Reports may tells s := ⟨trivial, fun _ he => nomatch he⟩

theorem update (change : Change) : (update change).Reports may tells s :=
  ⟨trivial, fun _ he => nomatch he⟩

/-- An exchange comes back with the timeout of its request, if with any. -/
theorem send {q : Request} (hmay : may q) (htells : ∀ part text endpoint payload,
    tells (.exchange part text q.limit endpoint payload)) : (send q).Reports may tells s := by
  refine ⟨hmay, fun w reply s' hback => ⟨trivial, ?_⟩⟩
  rintro e he t ht
  obtain ⟨part, text, endpoint, payload, rfl⟩ := hback e he t ht
  exact htells part text endpoint payload

theorem bind {p : Program α} {f : α → Program β} (hp : p.Reports may tells s)
    (hf : ∀ a s, (f a).Reports may tells s) : (p >>= f).Reports may tells s :=
  wp_kept_seq hp fun a _ s _ => hf a s

theorem attempt_bind {p : Program α} {k : Except Failure α → Program β}
    (hp : p.Reports may tells s) (hok : ∀ a s, (k (.ok a)).Reports may tells s)
    (herror : ∀ e s, e.Tells tells → (k (.error e)).Reports may tells s) :
    (p.attempt >>= k).Reports may tells s := by
  unfold Reports
  rw [wp_attempt_bind]
  refine wp_mono hp fun r _ s hr => ?_
  cases r with
  | ok a => exact hok a s
  | error e => exact herror e s (hr.2 e rfl)

theorem mono {may' : Request → Prop} {tells' : Timeout → Prop} {p : Program α}
    (h : p.Reports may tells s) (hmay : ∀ q, may q → may' q) (htells : ∀ t, tells t → tells' t) :
    p.Reports may' tells' s := by
  unfold Reports at *
  induction p generalizing s with
  | done r => exact ⟨trivial, fun e he t ht => htells t (h.2 e he t ht)⟩
  | look next ih => exact ih s h
  | act change next ih => exact ih h
  | exchange q next ih =>
    exact ⟨hmay q h.1, fun w reply s' hback => ih reply (h.2 w reply s' hback)⟩

/-- Reckoning with the time sends nothing. -/
theorem byClock {f : Int → Except Failure α} {k : α → Program β}
    (hk : ∀ a, f s.now = .ok a → (k a).Reports may tells s)
    (herror : ∀ e, f s.now = .error e → e.Tells tells) :
    (now >>= fun time => Program.ofExcept (f time) >>= k).Reports may tells s :=
  wp_byClock hk fun e he => kept_error trivial (herror e he)

/-- **On its own,** a program sends such requests, and ends with such a timeout if with any. -/
theorem run {p : Program α} (h : p.Reports may tells s) :
    (∃ requests, (p.run s).2.sent = s.sent ++ requests ∧ ∀ q ∈ requests, may q) ∧
    ∀ t, (p.run s).1 = .error (.timeout t) → tells t := by
  have hadmits : ∀ (s : Scene) (q : Request),
      (Discipline.candid may).back () s q () (s.play q).1 (s.play q).2 :=
    fun _ _ _ he => Playback.reply_explained he
  obtain ⟨⟨-, hfails⟩, events, hevents, hmay⟩ := run_of_admitted hadmits h
  refine ⟨⟨events.filterMap Event.request?, ?_, fun q hq => ?_⟩, fun t ht => hfails _ ht t rfl⟩
  · unfold Scene.sent
    rw [hevents, List.filterMap_append]
  · obtain ⟨event, hevent, hq⟩ := List.mem_filterMap.1 hq
    cases event with
    | sent t q' =>
      cases hq
      obtain ⟨s', -, hq⟩ := hmay t q hevent
      exact hq
    | _ => cases hq

end Reports

end Program

/-- **A call reports its request,** and fails with a timeout only if its exchange does. -/
theorem Gateway.reports_request {g : Gateway} {mode : Mode} {call : Call}
    (hmay : ∀ body, may (g.requestFor call body))
    (htells : ∀ part text endpoint payload,
      tells (.exchange part text call.limit.attached endpoint payload)) :
    (g.request mode call).Reports may tells s := by
  have hexchange : (g.exchange mode call).Reports may tells s := by
    unfold exchange
    split
    · exact .error (.of_ne nofun)
    · refine .bind (.ofExcept fun e => call.payload.readable_encodePayload.tellsOf) fun body s => ?_
      refine Program.wp_lines_bind logless_true _ _ _ trivial fun _ s _ => ?_
      refine Program.Reports.bind (.send (hmay body) htells) fun response s => ?_
      exact Program.wp_lines_bind logless_true _ _ _ trivial fun _ _ _ => Program.kept_ok trivial
  refine hexchange.bind fun response s => ?_
  unfold readEnvelope
  split
  · exact .ok _
  case h_2 e he =>
    refine Program.wp_lines_bind logless_true _ _ _ trivial fun _ _ _ => ?_
    exact Program.kept_error trivial ((Envelope.readable_read _ _).tellsOf he)

end AqlClient
