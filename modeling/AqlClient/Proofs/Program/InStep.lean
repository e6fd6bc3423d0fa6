import AqlClient.Gateway.Exchange
import AqlClient.Proofs.Redaction

/-!
# Programs in step

Two programs are in step if they do the same, step by step, whatever comes back from their
exchanges, but for the headers of the requests that they send (`Program.InStep`). They see the same
of the scene: what it looks like without the headers of what has been sent (`Scene.veil`). So they
log the same lines, fail in the same ways, and leave scenes behind that look the same
(`Program.InStep.run`).

There is one lemma for each way of putting programs together. The headers of a request never come to
matter, because the reply to a request does not depend on them (`Scene.veil_play`), and because of
sibling gateways the same is logged (`Gateway.Sibling.inStep_request`).
-/

namespace AqlClient

variable {α β γ δ : Type}

/-! ### Scenes without headers -/

/-- A request without its headers. -/
def Request.veil (q : Request) : Request := { q with headers := [] }

/-- An event without the headers of the request that is sent in it. -/
def Event.veil : Event → Event
  | .sent time q => .sent time q.veil
  | .made ref => .made ref
  | .cursor ref change => .cursor ref change

namespace Scene

/-- **A scene without the headers** of all requests that have been sent. -/
def veil (s : Scene) : Scene := { s with history := s.history.map Event.veil }

theorem veil_remember (s : Scene) (e : Event) : (s.remember e).veil = s.veil.remember e.veil :=
  congrArg (fun history => { s with history := history }) List.map_append

theorem veil_enact (s : Scene) (change : Change) : (s.enact change).veil = s.veil.enact change := by
  cases change with
  | cursorMade =>
    have hmade := (s.setCursor s.cursorCount .initial).veil_remember (.made s.cursorCount)
    exact congrArg (fun t : Scene => { t with cursorCount := s.cursorCount + 1 }) hmade
  | cursor ref change =>
    exact (s.setCursor ref ((s.cursors ref).after change)).veil_remember (.cursor ref change)
  | elapsed ms => rfl
  | logged level text => rfl
  | sessionMade => rfl
  | transportClosed => rfl
  | noted ref remark => rfl

/-- **What comes of an exchange does not depend on the headers.** -/
theorem veil_play (s : Scene) (q : Request) :
    s.veil.play q.veil = ((s.play q).1, (s.play q).2.veil) := by
  have hreply : (s.script.headD .scriptEnd).playback.reply q.veil =
      (s.script.headD .scriptEnd).playback.reply q := by
    cases (s.script.headD .scriptEnd).playback <;> rfl
  refine Prod.ext hreply ?_
  exact congrArg (fun t : Scene => ({ t with script := s.script.tail } : Scene).elapse
    (s.script.headD .scriptEnd).elapsed) (s.veil_remember (.sent s.now q)).symm

/-- Requests that differ in their headers alone come to the same in scenes that look the same. -/
theorem veil_congr {s s' : Scene} {q q' : Request} (hs : s'.veil = s.veil) (hq : q'.veil = q.veil) :
    (s'.play q').1 = (s.play q).1 ∧ (s'.play q').2.veil = (s.play q).2.veil := by
  have hplay : s'.veil.play q'.veil = s.veil.play q.veil := by rw [hs, hq]
  rw [veil_play, veil_play] at hplay
  exact Prod.ext_iff.1 hplay

/-- Scenes that look the same have seen the same requests, but for the headers. -/
theorem sent_of_veil {s s' : Scene} (h : s'.veil = s.veil) :
    s'.sent.map Request.veil = s.sent.map Request.veil := by
  have hsent : ∀ s : Scene, s.sent.map Request.veil = s.veil.sent := by
    intro s
    show (s.history.filterMap _).map _ = (s.history.map Event.veil).filterMap _
    rw [List.map_filterMap, List.filterMap_map]
    congr 1
    funext e
    cases e <;> rfl
  rw [hsent, hsent, h]

end Scene

/-! ### Programs in step -/

/-- Results that agree: values that are related, or one and the same failure. -/
inductive Agree (R : α → β → Prop) : Except Failure α → Except Failure β → Prop
  | ok {a : α} {b : β} : R a b → Agree R (.ok a) (.ok b)
  | error (e : Failure) : Agree R (.error e) (.error e)

theorem Agree.refl (r : Except Failure α) : Agree Eq r r := by
  cases r with
  | ok a => exact .ok rfl
  | error e => exact .error e

theorem Agree.eq {r r' : Except Failure α} (h : Agree Eq r r') : r' = r := by
  cases h with
  | ok h => rw [h]
  | error e => rfl

namespace Program

/-- **Two programs in step,** which end with results that are related. -/
inductive InStep (R : α → β → Prop) : Program α → Program β → Prop
  | done {r : Except Failure α} {r' : Except Failure β} : Agree R r r' →
      InStep R (.done r) (.done r')
  | look {next : Scene → Program α} {next' : Scene → Program β} :
      (∀ s s' : Scene, s'.veil = s.veil → InStep R (next s) (next' s')) →
      InStep R (.look next) (.look next')
  | act {change : Change} {next : Program α} {next' : Program β} : InStep R next next' →
      InStep R (.act change next) (.act change next')
  | exchange {q q' : Request} {next : Except Failure Response → Program α}
      {next' : Except Failure Response → Program β} : q'.veil = q.veil →
      (∀ reply, InStep R (next reply) (next' reply)) →
      InStep R (.exchange q next) (.exchange q' next')

namespace InStep

variable {R : α → β → Prop} {T : γ → δ → Prop} {p : Program α} {p' : Program β} {s s' : Scene}

/-- **Programs in step come to results that agree,** and to scenes that look the same. -/
theorem run (h : InStep R p p') (hs : s'.veil = s.veil) :
    Agree R (p.run s).1 (p'.run s').1 ∧ (p'.run s').2.veil = (p.run s).2.veil := by
  induction h generalizing s s' with
  | done hr => exact ⟨hr, hs⟩
  | look _ ih => exact ih s s' hs hs
  | act _ ih =>
    refine ih ?_
    rw [Scene.veil_enact, Scene.veil_enact, hs]
  | @exchange q q' next next' hq _ ih =>
    obtain ⟨hreply, hscene⟩ := Scene.veil_congr hs hq
    show Agree R ((next (s.play q).1).run (s.play q).2).1
        ((next' (s'.play q').1).run (s'.play q').2).1 ∧
      ((next' (s'.play q').1).run (s'.play q').2).2.veil =
        ((next (s.play q).1).run (s.play q).2).2.veil
    rw [hreply]
    exact ih _ hscene

theorem pure {a : α} {b : β} (h : R a b) : InStep R (pure a) (pure b) := .done (.ok h)

theorem throw (e : Failure) : InStep R (throw e : Program α) (throw e : Program β) :=
  .done (.error e)

theorem ofExcept (r : Except Failure α) : InStep Eq (ofExcept r) (ofExcept r) := .done (.refl r)

/-- **One program after another.** -/
theorem bind {f : α → Program γ} {f' : β → Program δ} (hp : InStep R p p')
    (hf : ∀ a b, R a b → InStep T (f a) (f' b)) : InStep T (p >>= f) (p' >>= f') := by
  change InStep T (p.bind f) (p'.bind f')
  induction hp with
  | done hr =>
    cases hr with
    | ok hab => exact hf _ _ hab
    | error e => exact .throw e
  | look _ ih => exact .look fun s s' hs => ih s s' hs
  | act _ ih => exact .act ih
  | exchange hq _ ih => exact .exchange hq fun reply => ih reply

/-- One program after another, where both go on with the same value. -/
theorem andThen {p p' : Program α} {f : α → Program γ} {f' : α → Program δ} (hp : InStep Eq p p')
    (hf : ∀ a, InStep T (f a) (f' a)) : InStep T (p >>= f) (p' >>= f') :=
  hp.bind fun a _ h => h ▸ hf a

/-- What programs in step come to is passed on in the same way. -/
theorem returning {p p' : Program α} (hp : InStep Eq p p') (f : α → γ) :
    InStep Eq (do return f (← p)) (do return f (← p')) :=
  hp.andThen fun _ => .pure rfl

theorem attempt (hp : InStep R p p') : InStep (Agree R) p.attempt p'.attempt := by
  induction hp with
  | done hr => exact .done (.ok hr)
  | look _ ih => exact .look fun s s' hs => ih s s' hs
  | act _ ih => exact .act ih
  | exchange hq _ ih => exact .exchange hq fun reply => ih reply

/-- What does not depend on headers is seen in the same way. -/
theorem view {f : Scene → α} (hf : ∀ s, f s.veil = f s) : InStep Eq (view f) (view f) := by
  refine .look fun s s' hs => .pure ?_
  rw [← hf s, ← hf s', hs]

theorem update (change : Change) : InStep Eq (update change) (update change) := .act (.pure rfl)

theorem record (level : LogLevel) (text : String) :
    InStep Eq (record level text) (record level text) :=
  update _

theorem lines {ι : Type} (items : List ι) (f : ι → Program Unit) (hf : ∀ a, InStep Eq (f a) (f a)) :
    InStep Eq (each items f) (each items f) := by
  induction items with
  | nil => exact .pure rfl
  | cons a rest ih => exact (hf a).andThen fun _ => ih

theorem send {q q' : Request} (h : q'.veil = q.veil) : InStep Eq (send q) (send q') :=
  .exchange h fun reply => .done (.refl reply)

theorem now : InStep Eq Program.now Program.now := view fun _ => rfl

/-- What is reckoned with the time comes out in the same way. -/
theorem byClock {ι : Type} {f : Int → Except Failure ι} {next : ι → Program γ}
    {next' : ι → Program δ} (h : ∀ a, InStep T (next a) (next' a)) :
    InStep T (Program.now >>= fun time => Program.ofExcept (f time) >>= next)
      (Program.now >>= fun time => Program.ofExcept (f time) >>= next') :=
  now.andThen fun time => (ofExcept (f time)).andThen h

end InStep

end Program

/-! ### Gateways -/

open Program (InStep)

namespace Gateway.Sibling

variable {g g' : Gateway} (h : g.Sibling g')

include h

theorem veil_requestFor (call : Call) (body : Option String) :
    (g'.requestFor call body).veil = (g.requestFor call body).veil := by
  unfold requestFor Request.veil
  rw [h.urlFor]

/-- **The same is logged of a request,** whatever the hidden headers are. -/
theorem requestLines (call : Call) (body : Option String) :
    g'.requestLines (g'.requestFor call body) = g.requestLines (g.requestFor call body) := by
  unfold Gateway.requestLines requestFor
  rw [h.urlFor, h.loggableHeaders]

theorem inStep_exchange (mode : Mode) (call : Call) :
    InStep Eq (g.exchange mode call) (g'.exchange mode call) := by
  unfold Gateway.exchange
  rw [h.channel, h.description]
  split
  · exact .throw _
  · refine .andThen (.ofExcept _) fun body => ?_
    refine .andThen ?_ fun _ => .andThen (.send (h.veil_requestFor call body)) fun response => ?_
    · rw [h.requestLines]
      exact .lines _ _ fun line => .record _ line
    · exact .andThen (.lines _ _ fun line => .record _ line) fun _ => .pure rfl

/-- **Calls of sibling gateways are in step.** -/
theorem inStep_request (mode : Mode) (call : Call) :
    InStep Eq (g.request mode call) (g'.request mode call) := by
  unfold Gateway.request
  rw [h.callDescription]
  refine (h.inStep_exchange mode call).andThen fun response => ?_
  unfold Gateway.readEnvelope
  split
  · exact .pure rfl
  · exact .andThen (.lines _ _ fun line => .record _ line) fun _ => .throw _

end Gateway.Sibling

end AqlClient
