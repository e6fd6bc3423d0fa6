import AqlClient.Gateway.Exchange
import AqlClient.Proofs.Program.Stretches

/-!
# Two runs side by side

Two programs are carried out on their own, in scenes that differ in what has been logged and in what
is remembered at most (`Scene.mute`). What each of them leaves behind in the log and at the server
are its traces (`Traces`). `Program.Beside` says of the two programs how their results and their
traces are related, whatever the scenes are.

There is one lemma for each way of putting programs together. Two verdicts are used:

* the programs are *in unison* (`Unison`): they leave the same traces;
* they are *told apart by a body* (`ToldApart`): the first request of each has a body of its own,
  and the line in which this body is logged is the only one that differs.

The same request gets the same reply in both runs. Requests that differ in their bodies get the same
response, but a failure may repeat the body; so nothing is said of the failures that come of it.
-/

namespace AqlClient

variable {α β γ δ : Type}

/-! ### Traces -/

/-- What a run leaves behind: the lines that it logs, and the requests that it sends. -/
@[ext]
structure Traces where
  lines : List LogLine
  requests : List Request

namespace Traces

/-- No traces. -/
def none : Traces := ⟨[], []⟩

/-- The traces of lines alone. -/
def ofLines (lines : List LogLine) : Traces := ⟨lines, []⟩

/-- Traces with later ones behind them. -/
def append (x y : Traces) : Traces := ⟨x.lines ++ y.lines, x.requests ++ y.requests⟩

instance : Append Traces := ⟨append⟩

@[simp] theorem append_lines (x y : Traces) : (x ++ y).lines = x.lines ++ y.lines := rfl

@[simp] theorem append_requests (x y : Traces) : (x ++ y).requests = x.requests ++ y.requests := rfl

@[simp] theorem ofLines_lines (lines : List LogLine) : (ofLines lines).lines = lines := rfl

@[simp] theorem ofLines_requests (lines : List LogLine) : (ofLines lines).requests = [] := rfl

end Traces

/-- The line that is logged in a step, if there is one. -/
def Change.lines : Change → List LogLine
  | .logged level text => [⟨level, text⟩]
  | _ => []

namespace Scene

/-- **A scene without its log,** and without what is remembered in it. -/
def mute (s : Scene) : Scene := { s with log := [], history := [] }

/-- **Traces lead from one scene to another.** -/
structure Leaves (s t : Scene) (x : Traces) : Prop where
  log : t.log = s.log ++ x.lines
  sent : t.sent = s.sent ++ x.requests

namespace Leaves

theorem refl (s : Scene) : s.Leaves s .none := ⟨(List.append_nil _).symm, (List.append_nil _).symm⟩

theorem trans {s t u : Scene} {x y : Traces} (h : s.Leaves t x) (h' : t.Leaves u y) :
    s.Leaves u (x ++ y) where
  log := by rw [h'.log, h.log, List.append_assoc]; rfl
  sent := by rw [h'.sent, h.sent, List.append_assoc]; rfl

theorem enact (s : Scene) (change : Change) :
    s.Leaves (s.enact change) (.ofLines change.lines) where
  log := by
    cases change with
    | logged level text => rfl
    | _ => exact (List.append_nil _).symm
  sent := (s.enact_sent change).trans (List.append_nil _).symm

theorem play (s : Scene) (q : Request) : s.Leaves (s.play q).2 ⟨[], [q]⟩ where
  log := (List.append_nil _).symm
  sent := s.send_sent q

end Leaves

/-- Steps are taken in the same way in scenes that differ in log and memory. -/
theorem mute_enact {s s' : Scene} (h : s'.mute = s.mute) (change : Change) :
    (s'.enact change).mute = (s.enact change).mute := by
  have hmute : ∀ s : Scene, (s.enact change).mute = (s.mute.enact change).mute := by
    intro s
    cases change <;> rfl
  rw [hmute, h, ← hmute]

/-- Exchanges take the same outcome from the script in scenes that differ in log and memory. -/
theorem mute_play {s s' : Scene} (h : s'.mute = s.mute) (q q' : Request) :
    (s'.play q').2.mute = (s.play q).2.mute ∧
      ∃ playback : Playback, (s.play q).1 = playback.reply q ∧
        (s'.play q').1 = playback.reply q' := by
  have hscene : ∀ (s : Scene) (q : Request), (s.play q).2.mute = (s.mute.play q).2.mute :=
    fun s q => rfl
  have hscript : s'.mute.script = s.mute.script := congrArg Scene.script h
  refine ⟨?_, (s.script.headD .scriptEnd).playback, rfl, ?_⟩
  · rw [hscene s' q', h]
    rfl
  · show (s'.mute.script.headD .scriptEnd).playback.reply q' = _
    rw [hscript]
    rfl

end Scene

/-! ### Programs side by side -/

/-- What is said of the results of two runs, and of their traces. -/
abbrev Verdict (α β : Type) : Type :=
  Except Failure α → Except Failure β → Traces → Traces → Prop

namespace Verdict

/-- A verdict on what follows traces. -/
def behind (W : Verdict α β) (x x' : Traces) : Verdict α β :=
  fun r r' y y' => W r r' (x ++ y) (x' ++ y')

end Verdict

namespace Program

/-- **A verdict on two runs:** the scenes that they lead to differ in log and memory at most, and
what is said holds of the results and of the traces. -/
structure RunBeside (W : Verdict α β) (p : Program α) (p' : Program β) (s s' : Scene) : Prop where
  mute : (p'.run s').2.mute = (p.run s).2.mute
  traces : ∃ x x', s.Leaves (p.run s).2 x ∧ s'.Leaves (p'.run s').2 x' ∧
    W (p.run s).1 (p'.run s').1 x x'

/-- **A verdict on two programs,** whatever scenes they are carried out in. -/
def Beside (W : Verdict α β) (p : Program α) (p' : Program β) : Prop :=
  ∀ s s' : Scene, s'.mute = s.mute → RunBeside W p p' s s'

namespace Beside

variable {W : Verdict α β} {V : Verdict γ δ} {p : Program α} {p' : Program β}

theorem mono {V : Verdict α β} (h : Beside W p p')
    (hVW : ∀ r r' x x', W r r' x x' → V r r' x x') : Beside V p p' := by
  intro s s' hs
  obtain ⟨hmute, x, x', hx, hx', hW⟩ := h s s' hs
  exact ⟨hmute, x, x', hx, hx', hVW _ _ _ _ hW⟩

/-- Programs that have ended already. -/
theorem ended {r : Except Failure α} {r' : Except Failure β} (h : W r r' .none .none) :
    Beside W (ofExcept r) (ofExcept r') :=
  fun s s' hs => ⟨hs, .none, .none, .refl s, .refl s', h⟩

theorem returned {a : α} {b : β} (h : W (.ok a) (.ok b) .none .none) :
    Beside W (pure a) (pure b) :=
  ended h

theorem thrown {e e' : Failure} (h : W (.error e) (.error e') .none .none) :
    Beside W (throw e) (throw e') :=
  ended h

/-- **One program after another,** whatever comes of the first. -/
theorem attempt_bind {f : Except Failure α → Program γ} {f' : Except Failure β → Program δ}
    (hp : Beside W p p')
    (hf : ∀ r r' x x', W r r' x x' → Beside (V.behind x x') (f r) (f' r')) :
    Beside V (p.attempt >>= f) (p'.attempt >>= f') := by
  intro s s' hs
  obtain ⟨hmute, x, x', hx, hx', hW⟩ := hp s s' hs
  obtain ⟨hmute', y, y', hy, hy', hV⟩ := hf _ _ x x' hW _ _ hmute
  constructor
  · rw [run_bind, run_bind, run_attempt, run_attempt]
    exact hmute'
  · rw [run_bind, run_bind, run_attempt, run_attempt]
    exact ⟨x ++ y, x' ++ y', hx.trans hy, hx'.trans hy', hV⟩

/-- What follows a program follows its result. -/
theorem bind_eq_attempt_bind (p : Program α) (f : α → Program γ) :
    p >>= f = p.attempt >>= fun r => ofExcept r >>= f := by
  change p.bind f = p.attempt.bind fun r => (ofExcept r).bind f
  induction p with
  | done r => rfl
  | look next ih => exact congrArg look (funext ih)
  | act change next ih => exact congrArg (act change) ih
  | exchange q next ih => exact congrArg (exchange q) (funext ih)

/-- **One program after another,** unless the first one fails. -/
theorem bind {f : α → Program γ} {f' : β → Program δ} (hp : Beside W p p')
    (hf : ∀ r r' x x', W r r' x x' →
      Beside (V.behind x x') (ofExcept r >>= f) (ofExcept r' >>= f')) :
    Beside V (p >>= f) (p' >>= f') := by
  rw [bind_eq_attempt_bind p, bind_eq_attempt_bind p']
  exact attempt_bind hp hf

/-- What can be seen without log and memory is seen in the same way. -/
theorem view_bind {ι : Type} {f : Scene → ι} (hf : ∀ s, f s.mute = f s) {k : ι → Program α}
    {k' : ι → Program β} (h : ∀ a, Beside W (k a) (k' a)) :
    Beside W (view f >>= k) (view f >>= k') := by
  intro s s' hs
  have hsame : f s' = f s := by rw [← hf s', ← hf s, hs]
  have hk : RunBeside W (k (f s)) (k' (f s')) s s' := by
    rw [hsame]
    exact h (f s) s s' hs
  exact ⟨hk.mute, hk.traces⟩

/-- What is reckoned with the time comes out in the same way. -/
theorem byClock {ι : Type} {f : Int → Except Failure ι} {k : ι → Program α} {k' : ι → Program β}
    (hok : ∀ a, Beside W (k a) (k' a)) (herror : ∀ e, W (.error e) (.error e) .none .none) :
    Beside W (Program.now >>= fun time => Program.ofExcept (f time) >>= k)
      (Program.now >>= fun time => Program.ofExcept (f time) >>= k') := by
  refine view_bind (fun _ => rfl) fun time => ?_
  cases f time with
  | ok a => exact hok a
  | error e => exact ended (herror e)

/-- The same step is taken first. -/
theorem update_bind (change : Change) {k : Unit → Program α} {k' : Unit → Program β}
    (h : Beside (W.behind (.ofLines change.lines) (.ofLines change.lines)) (k ()) (k' ())) :
    Beside W (update change >>= k) (update change >>= k') := by
  intro s s' hs
  obtain ⟨hmute, x, x', hx, hx', hW⟩ := h _ _ (Scene.mute_enact hs change)
  exact ⟨hmute, _, _, (Scene.Leaves.enact s change).trans hx,
    (Scene.Leaves.enact s' change).trans hx', hW⟩

/-- A program that logs lines first. -/
theorem run_lines_bind (level : LogLevel) (texts : List String) (k : Unit → Program α) (s : Scene) :
    (each texts (record level) >>= k).run s =
      (k ()).run { s with log := s.log ++ texts.map (LogLine.mk level) } := by
  induction texts generalizing s with
  | nil => rw [List.map_nil, List.append_nil]; rfl
  | cons text rest ih =>
    show (each rest (record level) >>= k).run (s.record level text) = _
    rw [ih, List.map_cons]
    unfold Scene.record
    rw [List.append_assoc]
    rfl

/-- Lines are logged first, which may differ. -/
theorem lines_bind (level : LogLevel) (texts texts' : List String) {k : Unit → Program α}
    {k' : Unit → Program β}
    (h : Beside (W.behind (.ofLines (texts.map (LogLine.mk level)))
      (.ofLines (texts'.map (LogLine.mk level)))) (k ()) (k' ())) :
    Beside W (each texts (record level) >>= k) (each texts' (record level) >>= k') := by
  have hleaves : ∀ (s : Scene) (texts : List String),
      s.Leaves { s with log := s.log ++ texts.map (LogLine.mk level) }
        (.ofLines (texts.map (LogLine.mk level))) :=
    fun s texts => ⟨rfl, (List.append_nil _).symm⟩
  intro s s' hs
  obtain ⟨hmute, x, x', hx, hx', hW⟩ := h { s with log := s.log ++ texts.map (LogLine.mk level) }
    { s' with log := s'.log ++ texts'.map (LogLine.mk level) } hs
  constructor
  · rw [run_lines_bind, run_lines_bind]
    exact hmute
  · rw [run_lines_bind, run_lines_bind]
    exact ⟨_, _, (hleaves s texts).trans hx, (hleaves s' texts').trans hx', hW⟩

/-- Requests are sent first, which may differ, but get the same outcome. -/
theorem send_bind {q q' : Request} {k : Response → Program α} {k' : Response → Program β}
    (h : ∀ playback : Playback, Beside (W.behind ⟨[], [q]⟩ ⟨[], [q']⟩)
      (ofExcept (playback.reply q) >>= k) (ofExcept (playback.reply q') >>= k')) :
    Beside W (send q >>= k) (send q' >>= k') := by
  intro s s' hs
  obtain ⟨hscene, playback, hreply, hreply'⟩ := Scene.mute_play hs q q'
  have hrun : ∀ {ζ : Type} (q : Request) (k : Response → Program ζ) (s : Scene),
      (send q >>= k).run s = (ofExcept (s.play q).1 >>= k).run (s.play q).2 := fun q k s => rfl
  obtain ⟨hmute, x, x', hx, hx', hW⟩ := h playback _ _ hscene
  constructor
  · rw [hrun, hrun, hreply, hreply']
    exact hmute
  · rw [hrun, hrun, hreply, hreply']
    exact ⟨_, _, (Scene.Leaves.play s q).trans hx, (Scene.Leaves.play s' q').trans hx', hW⟩

end Beside

end Program

/-! ### In unison -/

/-- Results that concur: values that are related, or failures. -/
def Concur (R : α → β → Prop) : Except Failure α → Except Failure β → Prop
  | .ok a, .ok b => R a b
  | .error _, .error _ => True
  | _, _ => False

/-- **In unison:** the results concur, and the traces are the same. -/
def Verdict.unison (R : α → β → Prop) : Verdict α β := fun r r' x x' => Concur R r r' ∧ x' = x

namespace Program

/-- **Two programs in unison,** whatever scenes they are carried out in. -/
def Unison (R : α → β → Prop) (p : Program α) (p' : Program β) : Prop := Beside (.unison R) p p'

namespace Unison

variable {R : α → β → Prop} {T : γ → δ → Prop} {p : Program α} {p' : Program β}

theorem pure {a : α} {b : β} (h : R a b) : Unison R (pure a) (pure b) :=
  Beside.returned ⟨h, rfl⟩

theorem ofExcept (r : Except Failure α) : Unison Eq (ofExcept r) (ofExcept r) := by
  refine Beside.ended ⟨?_, rfl⟩
  cases r with
  | ok a => rfl
  | error e => trivial

theorem throw (e e' : Failure) : Unison R (throw e) (throw e') :=
  Beside.thrown ⟨trivial, rfl⟩

/-- Traces that are the same stay so behind others that are the same. -/
theorem behind (h : Unison R p p') (x : Traces) : Beside ((Verdict.unison R).behind x x) p p' := by
  refine Beside.mono h fun r r' y y' hy => ?_
  obtain ⟨hconcur, rfl⟩ := hy
  exact ⟨hconcur, rfl⟩

/-- **One program after another.** -/
theorem bind {f : α → Program γ} {f' : β → Program δ} (hp : Unison R p p')
    (hf : ∀ a b, R a b → Unison T (f a) (f' b)) : Unison T (p >>= f) (p' >>= f') := by
  refine Beside.bind hp fun r r' x x' h => ?_
  obtain ⟨hconcur, rfl⟩ := h
  cases r with
  | ok a =>
    cases r' with
    | ok b => exact (hf a b hconcur).behind _
    | error e => cases hconcur
  | error e =>
    cases r' with
    | ok b => cases hconcur
    | error e' => exact (throw e e').behind _

/-- One program after another, where both go on with the same value. -/
theorem andThen {p p' : Program α} {f : α → Program γ} {f' : α → Program δ} (hp : Unison Eq p p')
    (hf : ∀ a, Unison T (f a) (f' a)) : Unison T (p >>= f) (p' >>= f') :=
  hp.bind fun a _ h => h ▸ hf a

theorem update (change : Change) : Unison Eq (update change) (update change) := by
  refine Beside.update_bind change (Beside.ended ?_)
  exact ⟨rfl, rfl⟩

theorem record (level : LogLevel) (text : String) :
    Unison Eq (record level text) (record level text) :=
  update _

theorem lines (level : LogLevel) (texts : List String) :
    Unison Eq (each texts (Program.record level)) (each texts (Program.record level)) := by
  induction texts with
  | nil => exact pure rfl
  | cons text rest ih => exact (record level text).andThen fun _ => ih

/-- The same request gets the same response. -/
theorem send_bind (q : Request) {k : Response → Program γ} {k' : Response → Program δ}
    (h : ∀ response, Unison T (k response) (k' response)) :
    Unison T (send q >>= k) (send q >>= k') := by
  refine Beside.send_bind fun playback => ?_
  cases playback.reply q with
  | ok response => exact (h response).behind _
  | error e => exact (throw e e).behind _

/-- What can be seen without log and memory is seen in the same way. -/
theorem view_bind {ι : Type} {f : Scene → ι} (hf : ∀ s, f s.mute = f s) {k : ι → Program γ}
    {k' : ι → Program δ} (h : ∀ a, Unison T (k a) (k' a)) :
    Unison T (view f >>= k) (view f >>= k') :=
  Beside.view_bind hf h

/-- What is reckoned with the time comes out in the same way. -/
theorem byClock {ι : Type} {f : Int → Except Failure ι} {k : ι → Program γ} {k' : ι → Program δ}
    (h : ∀ a, Unison T (k a) (k' a)) :
    Unison T (Program.now >>= fun time => Program.ofExcept (f time) >>= k)
      (Program.now >>= fun time => Program.ofExcept (f time) >>= k') :=
  Beside.byClock h fun _ => ⟨trivial, rfl⟩

end Unison

end Program

/-! ### Told apart by a body -/

/-- The line in which the body of a request is logged. -/
def bodyLine (body : String) : LogLine := ⟨.debug, "Request payload: '" ++ body ++ "'"⟩

namespace Traces

/-- **Traces that are told apart by the body of the first request:** that body itself, and the line
in which it is logged, are all that differs. -/
def ToldApart (body body' : String) (x x' : Traces) : Prop :=
  ∃ (before after : List LogLine) (q : Request) (later : List Request),
    x = ⟨before ++ bodyLine body :: after, { q with body := some body } :: later⟩ ∧
    x' = ⟨before ++ bodyLine body' :: after, { q with body := some body' } :: later⟩

namespace ToldApart

variable {body body' : String} {x x' : Traces}

/-- Lines in front of the traces do not matter. -/
theorem behind_lines (h : ToldApart body body' x x') (lines : List LogLine) :
    ToldApart body body' (ofLines lines ++ x) (ofLines lines ++ x') := by
  obtain ⟨before, after, q, later, rfl, rfl⟩ := h
  refine ⟨lines ++ before, after, q, later, ?_, ?_⟩
  · rw [List.append_assoc]
    rfl
  · rw [List.append_assoc]
    rfl

/-- Neither does what follows them. -/
theorem append (h : ToldApart body body' x x') (y : Traces) :
    ToldApart body body' (x ++ y) (x' ++ y) := by
  obtain ⟨before, after, q, later, rfl, rfl⟩ := h
  refine ⟨before, after ++ y.lines, q, later ++ y.requests, ?_, ?_⟩
  · rw [← List.cons_append, ← List.append_assoc]
    rfl
  · rw [← List.cons_append, ← List.append_assoc]
    rfl

/-- The line that differs is seen by those only who read everything. -/
theorem lines_reaching (h : ToldApart body body' x x') {least : LogLevel} (hleast : least ≠ .debug) :
    x'.lines.filter (fun line => line.level.reaches least) =
      x.lines.filter (fun line => line.level.reaches least) := by
  have hunseen : ∀ body, (bodyLine body).level.reaches least = false := by
    intro body
    cases least with
    | debug => exact absurd rfl hleast
    | _ => rfl
  obtain ⟨before, after, q, later, rfl, rfl⟩ := h
  simp only [List.filter_append, List.filter_cons, hunseen, Bool.false_eq_true, if_false]

end ToldApart

end Traces

namespace Verdict

/-- **Overheard:** nothing is sent and both fail, having logged the same lines, or the traces are
told apart by the body of the first request. -/
def overheard (body body' : String) (R : α → β → Prop) : Verdict α β := fun r r' x x' =>
  ((∃ e, r = .error e) ∧ (∃ e, r' = .error e) ∧ x' = x ∧ x.requests = []) ∨
  (Concur R r r' ∧ x.ToldApart body body' x')

end Verdict

namespace Program

/-- **Two programs that are told apart by the bodies** of their first requests alone. -/
def Overheard (body body' : String) (R : α → β → Prop) (p : Program α) (p' : Program β) : Prop :=
  Beside (.overheard body body' R) p p'

namespace Overheard

variable {body body' : String} {R : α → β → Prop} {T : γ → δ → Prop} {p : Program α}
  {p' : Program β}

/-- Nothing comes before the first request but lines that are the same. -/
theorem behind_lines (h : Overheard body body' R p p') (lines : List LogLine) :
    Beside ((Verdict.overheard body body' R).behind (.ofLines lines) (.ofLines lines)) p p' := by
  refine Beside.mono h fun r r' x x' hx => ?_
  obtain ⟨he, he', rfl, hnone⟩ | ⟨hconcur, htold⟩ := hx
  · exact .inl ⟨he, he', rfl, hnone⟩
  · exact .inr ⟨hconcur, htold.behind_lines lines⟩

theorem record_bind (level : LogLevel) (text : String) {k : Unit → Program α} {k' : Unit → Program β}
    (h : Overheard body body' R (k ()) (k' ())) :
    Overheard body body' R (record level text >>= k) (record level text >>= k') :=
  Beside.update_bind _ (h.behind_lines _)

/-- What is reckoned with the time comes out in the same way, or nothing is sent. -/
theorem byClock {ι : Type} {f : Int → Except Failure ι} {k : ι → Program α} {k' : ι → Program β}
    (h : ∀ a, Overheard body body' R (k a) (k' a)) :
    Overheard body body' R (Program.now >>= fun time => Program.ofExcept (f time) >>= k)
      (Program.now >>= fun time => Program.ofExcept (f time) >>= k') :=
  Beside.byClock h fun e => .inl ⟨⟨e, rfl⟩, ⟨e, rfl⟩, rfl, rfl⟩

/-- **Whatever follows the first request in unison** keeps the programs as they are. -/
theorem attempt_bind {f : Except Failure α → Program γ} {f' : Except Failure β → Program δ}
    (hp : Overheard body body' R p p')
    (hf : ∀ r r', Concur R r r' → Unison T (f r) (f' r'))
    (hrefused : ∀ e e', Beside (fun t t' y y' => (∃ e, t = .error e) ∧ (∃ e, t' = .error e) ∧
      y' = y ∧ y.requests = []) (f (.error e)) (f' (.error e'))) :
    Overheard body body' T (p.attempt >>= f) (p'.attempt >>= f') := by
  refine Beside.attempt_bind hp fun r r' x x' h => ?_
  obtain ⟨⟨e, rfl⟩, ⟨e', rfl⟩, rfl, hnone⟩ | ⟨hconcur, htold⟩ := h
  · refine (hrefused e e').mono fun t t' y y' hy => .inl ?_
    obtain ⟨ht, ht', rfl, hy⟩ := hy
    refine ⟨ht, ht', rfl, ?_⟩
    rw [Traces.append_requests, hnone, hy]
    rfl
  · refine Beside.mono (hf r r' hconcur) fun t t' y y' hy => .inr ?_
    obtain ⟨hconcur', rfl⟩ := hy
    exact ⟨hconcur', htold.append y'⟩

/-- What comes behind the first request and is in unison makes no difference. -/
theorem bind {f : α → Program γ} {f' : β → Program δ} (hp : Overheard body body' R p p')
    (hf : ∀ a b, R a b → Unison T (f a) (f' b)) :
    Overheard body body' T (p >>= f) (p' >>= f') := by
  rw [Beside.bind_eq_attempt_bind p, Beside.bind_eq_attempt_bind p']
  refine hp.attempt_bind (fun r r' hconcur => ?_) fun e e' => ?_
  · cases r with
    | ok a =>
      cases r' with
      | ok b => exact hf a b hconcur
      | error e => cases hconcur
    | error e =>
      cases r' with
      | ok b => cases hconcur
      | error e' => exact .throw e e'
  · exact Beside.thrown ⟨⟨e, rfl⟩, ⟨e', rfl⟩, rfl, rfl⟩

end Overheard

end Program

/-! ### Calls -/

namespace Gateway

open Program (Unison Overheard Beside)

variable {g : Gateway} {mode : Mode} {call : Call}

/-- The reading of an envelope is the same for both. -/
theorem unison_readEnvelope (response : Response) (description : Option String) :
    Unison Eq (readEnvelope response description) (readEnvelope response description) := by
  unfold readEnvelope
  split
  · exact .pure rfl
  · exact .andThen (.lines _ _) fun _ => .throw _ _

/-- A call is in unison with itself. -/
theorem unison_request (g : Gateway) (mode : Mode) (call : Call) :
    Unison Eq (g.request mode call) (g.request mode call) := by
  have hexchange : Unison Eq (g.exchange mode call) (g.exchange mode call) := by
    unfold Gateway.exchange
    split
    · exact .throw _ _
    · refine .andThen (.ofExcept _) fun body => .andThen (.lines _ _) fun _ => ?_
      exact .send_bind _ fun response => .andThen (.lines _ _) fun _ => .pure rfl
  exact hexchange.andThen fun response => unison_readEnvelope response _

/-- The body is logged in one line among others, which do not depend on it. -/
theorem requestLines_body (g : Gateway) (call : Call) (body body' : String) : ∃ before after,
    (g.requestLines (g.requestFor call (some body))).map (LogLine.mk .debug) =
      before ++ bodyLine body :: after ∧
    (g.requestLines (g.requestFor call (some body'))).map (LogLine.mk .debug) =
      before ++ bodyLine body' :: after := by
  have hsplit : ∀ (url params headers limit : Option String) (text : String),
      ([url, params, headers, some text, limit].filterMap id).map (LogLine.mk .debug) =
        ([url, params, headers].filterMap id).map (LogLine.mk .debug) ++
          LogLine.mk .debug text :: ([limit].filterMap id).map (LogLine.mk .debug) := by
    intro url params headers limit text
    rw [← List.map_cons, ← List.map_append]
    have happend : ([url, params, headers] ++ [some text, limit]).filterMap id =
        [url, params, headers].filterMap id ++ [some text, limit].filterMap id :=
      List.filterMap_append
    exact congrArg _ happend
  exact ⟨_, _, hsplit _ _ _ _ _, hsplit _ _ _ _ _⟩

/-- **Calls that differ in their payload** are told apart by their bodies, and by nothing else. -/
theorem overheard_request {payload : Value} {body body' : String} (hchannel : g.channel = some mode)
    (hbody : call.payload.encodePayload = .ok (some body))
    (hbody' : payload.encodePayload = .ok (some body')) :
    Overheard body body' Eq (g.request mode call)
      (g.request mode { call with payload := payload }) := by
  have hexchange : Overheard body body' Eq (g.exchange mode call)
      (g.exchange mode { call with payload := payload }) := by
    unfold Gateway.exchange
    rw [if_neg fun hne => hne hchannel, if_neg fun hne => hne hchannel, hbody, hbody']
    obtain ⟨before, after, hlines, hlines'⟩ := g.requestLines_body call body body'
    refine Beside.lines_bind _ _ _ (Beside.send_bind fun playback => ?_)
    -- a failure may repeat the body, but nothing is logged of it
    have hrest : Unison Eq
        (Program.ofExcept (playback.reply (g.requestFor call (some body))) >>= fun response => do
          Program.each (responseLines response) (Program.record .debug)
          return response)
        (Program.ofExcept (playback.reply (g.requestFor call (some body'))) >>= fun response => do
          Program.each (responseLines response) (Program.record .debug)
          return response) := by
      cases playback with
      | response status headers text =>
        exact .andThen (.ofExcept _) fun response => .andThen (.lines _ _) fun _ => .pure rfl
      | _ => exact .throw _ _
    refine Beside.mono hrest fun r r' y y' hy => .inr ?_
    obtain ⟨hconcur, rfl⟩ := hy
    refine ⟨hconcur, before, after ++ y'.lines, g.requestFor call none, y'.requests, ?_, ?_⟩
    · rw [hlines]
      simp [Traces.ext_iff, requestFor]
    · show Traces.ofLines ((g.requestLines (g.requestFor call (some body'))).map _) ++ _ = _
      rw [hlines']
      simp [Traces.ext_iff, requestFor]
  exact hexchange.bind fun response _ h => h ▸ unison_readEnvelope response _

end Gateway

end AqlClient
