import AqlClient.Proofs.Cursor.Pace
import AqlClient.Proofs.Program.Points

/-!
# What a cursor sends

A fetch sends its request at once, under the limit that it is granted, and closing a cursor sends
nothing but the release. So the methods that read a cursor to its end send fetches and the release
(`Cursor.sends_toListWithin`, `Cursor.sends_forEach`).

Where a request of such a method comes from can be told as well: it is a release, or the method is
at a fetch, behind which the cursor is closed (`Cursor.AtFetch`). What a function sends that is
called on items is told apart.
-/

namespace AqlClient

variable {α β γ : Type} {c : Cursor α} {may : Int → Request → Prop} {s : Scene} {pace : Scene → Int}

/-! ### What a cursor sends -/

namespace Cursor

/-- A batch arrives without a request. -/
theorem sends_ingest (b : Batch) : (c.ingest b).Sends may s :=
  wp_ingest logless_true b trivial (fun _ _ _ => trivial) fun _ _ _ _ _ => trivial

/-- **A fetch sends its request at once,** under the limit that it is granted. -/
theorem sends_fetchNext {deadline : Option Deadline}
    (hmay : ∀ id limit body, c.limitAt deadline s.now = .ok limit →
      may s.now (c.request "PUT" id limit body)) : (c.fetchNext deadline).Sends may s := by
  have hfetch : ∀ {s' : Scene}, s'.now = s.now → (c.fetchBatch deadline).Sends may s' := by
    intro s' hnow
    refine wp_fetchBatch_of (fun _ => trivial) (fun _ _ _ _ => trivial) fun id limit _ hlimit => ?_
    rw [hnow] at hlimit
    exact QueryService.sends_fetch fun body => hnow ▸ hmay id limit body hlimit
  refine wp_fetchNext_of (Program.Sends.bind (hfetch rfl) fun b _ => sends_ingest b) ?_
  refine Program.Sends.bind ((wp_fetchAlone deadline _).2 ?_) fun b _ => sends_ingest b
  split
  · trivial
  · exact Program.wp_mono (hfetch rfl) fun _ _ _ _ => trivial

section Closing

variable (hdelete : ∀ now id body, may now (c.request "DELETE" id c.plainLimit body))

include hdelete

/-- Closing a cursor sends nothing but the release. -/
theorem sends_close : c.close.Sends may s := by
  unfold Program.Sends close
  rw [wp_look, wp_update]
  split
  · trivial
  · exact QueryService.sends_release fun body => hdelete _ _ body

theorem sends_closeAfterFailure : c.closeAfterFailure.Sends may s := by
  refine Program.Sends.attempt_bind (sends_close hdelete) fun r s' => ?_
  cases r with
  | ok _ => trivial
  | error e =>
    show (if e.isClientError = true then _ else _ : Program Unit).Sends may s'
    split
    · trivial
    · trivial

theorem sends_closing {body : Program β} (hbody : body.Sends may s) :
    (c.closing body).Sends may s := by
  refine Program.Sends.attempt_bind hbody fun r s' => ?_
  cases r with
  | ok b => exact Program.Sends.bind (sends_close hdelete) fun _ _ => trivial
  | error e => exact Program.Sends.bind (sends_closeAfterFailure hdelete) fun _ _ => trivial

/-- A method that closes the cursor behind itself begins with its deadline. -/
theorem sends_underDeadline {limit : Value} {body : Deadline → Program β}
    (hbody : ∀ d, Deadline.starting s.now limit (some generalTimeoutLabel) = .ok d →
      (body d).Sends may s) :
    (c.underDeadline limit fun d => c.closing (body d)).Sends may s := by
  unfold underDeadline Program.Sends
  rw [Program.wp_bind, wp_deadline]
  split
  · trivial
  · cases hd : Deadline.starting s.now limit (some generalTimeoutLabel) with
    | error e => trivial
    | ok d => exact sends_closing hdelete (hbody d hd)

end Closing

/-- Handing out items sends nothing. -/
theorem sends_paced_handOut (number : Nat) : ((c.handOut number).paced pace).Sends may s := by
  unfold Program.Sends
  rw [wp_paced_handOut]
  split
  · trivial
  · trivial

/-- Fetches are supplied under a deadline that grants what they may take. -/
theorem supplied_timed {d : Deadline} (hput : ∀ now id limit body,
    c.limitAt (some d) now = .ok limit → may now (c.request "PUT" id limit body)) :
    c.Supplied (.timed may) (some d) (fun _ _ => True) fun _ _ _ => True :=
  fun _ _ _ _ => Program.Sends.stays (fun s => sends_fetchNext (hput s.now)) trivial

section Methods

variable (hdelete : ∀ now id body, may now (c.request "DELETE" id c.plainLimit body))

include hdelete

/-- **Reading all that is left** sends fetches under its deadline, and the release. -/
theorem sends_toListWithin {limit : Value}
    (hput : ∀ d, Deadline.starting s.now limit (some generalTimeoutLabel) = .ok d →
      ∀ now id limit body, c.limitAt (some d) now = .ok limit →
        may now (c.request "PUT" id limit body)) :
    ((c.toListWithin limit).paced pace).Sends may s := by
  rw [paced_toListWithin]
  refine sends_underDeadline hdelete fun d hd => Program.Sends.of_stays ?_ s
  refine (supplied_timed (hput d hd)).remainderBy (empties_paced_drain fun number => ?_)
  exact Program.Sends.stays fun _ => sends_paced_handOut number

/-- **Calling a function on each item that is left** sends no more than that, and what the function
sends. -/
theorem sends_forEach {visit : α → Program Bool} {general timeout : Option Int}
    (hput : ∀ d, Deadline.starting s.now (c.overall general timeout) (some generalTimeoutLabel) =
      .ok d → ∀ now id limit body, c.limitAt (some d) now = .ok limit →
        may now (c.request "PUT" id limit body))
    (hvisit : ∀ a s', ((visit a).paced pace).Sends may s') :
    ((c.forEach visit general timeout).paced pace).Sends may s := by
  rw [paced_forEach]
  refine sends_underDeadline hdelete fun d hd => Program.Sends.of_stays ?_ s
  refine stays_visitAll ((supplied_timed (hput d hd)).pullBy (stays_paced_pop fun number => ?_)) ?_
  · exact Program.Sends.stays fun _ => sends_paced_handOut number
  · exact fun a => Program.Sends.stays (hvisit a)

end Methods

/-! ### Where requests come from -/

section Origins

variable {d : Deadline} {other : Request → Prop} {p : Program β} {f : β → Program γ}

/-- **A program begins with a fetch** under a deadline. -/
def BeginsWithFetch (c : Cursor α) (d : Deadline) (p : Program β) : Prop :=
  ∃ k : Unit → Program β, p = c.fetchNext (some d) >>= k

/-- **All that a program sends comes of fetches** under a deadline, but for requests of another
kind. -/
def Fetching (c : Cursor α) (d : Deadline) (other : Request → Prop) (p : Program β) : Prop :=
  ∀ s, p.SendsFrom (c.BeginsWithFetch d) other s

theorem fetching_of_sends (h : ∀ s, p.Sends (fun _ q => other q) s) : c.Fetching d other p :=
  fun s => .of_sends (h s)

theorem fetching_pure (b : β) : c.Fetching d other (pure b : Program β) :=
  fetching_of_sends fun _ => trivial

theorem fetching_view (g : Scene → β) : c.Fetching d other (Program.view g) :=
  fetching_of_sends fun _ => trivial

theorem fetching_fetchNext : c.Fetching d other (c.fetchNext (some d)) := by
  intro s q s₂ hq
  -- a fetch sends nothing but at once
  have hsends : (c.fetchNext (some d)).Sends (fun now _ => now = s.now) s :=
    sends_fetchNext fun _ _ _ _ => rfl
  have hnow : s₂.now = s.now := hq.of_sends hsends
  exact .inr ⟨_, s, ⟨pure, (Program.bind_pure _).symm⟩, .here _ _, hnow.symm, hq⟩

theorem Fetching.bind (hp : c.Fetching d other p) (hf : ∀ b, c.Fetching d other (f b)) :
    c.Fetching d other (p >>= f) := by
  refine fun s => (hp s).bind ?_ fun b s₁ _ => hf b s₁
  rintro _ ⟨k, rfl⟩
  exact ⟨fun u => k u >>= f, Program.bind_assoc _ _ _⟩

theorem fetching_collectBy {drain : Program (List α)} (hdrain : c.Fetching d other drain)
    (rounds : Nat) : c.Fetching d other (c.collectBy drain d rounds) := by
  induction rounds with
  | zero => exact fetching_pure []
  | succ n ih =>
    refine (fetching_view _).bind fun state => ?_
    split
    · exact fetching_fetchNext.bind fun _ => hdrain.bind fun _ => ih.bind fun _ => fetching_pure _
    · exact fetching_pure []

theorem fetching_fill : c.Fetching d other (c.fill (some d)) := by
  have hwithin : ∀ rounds, c.Fetching d other (c.fillWithin (some d) rounds) := by
    intro rounds
    induction rounds with
    | zero => exact fetching_pure ()
    | succ n ih =>
      refine (fetching_view _).bind fun state => ?_
      split
      · exact fetching_fetchNext.bind fun _ => ih
      · exact fetching_pure ()
  exact (fetching_view _).bind hwithin

theorem fetching_visitAll {pull : Program (Option α)} {visit : α → Program Bool}
    (hpull : c.Fetching d other pull) (hvisit : ∀ a, c.Fetching d other (visit a)) :
    c.Fetching d other (c.visitAll pull visit) := by
  have hitems : ∀ number, c.Fetching d other (visitItems pull visit number) := by
    intro number
    induction number with
    | zero => exact fetching_pure true
    | succ n ih =>
      refine hpull.bind fun a? => ?_
      cases a? with
      | none => exact fetching_pure false
      | some a =>
        refine (hvisit a).bind fun on => ?_
        split
        · exact ih
        · exact fetching_pure false
  have hrounds : ∀ rounds, c.Fetching d other (c.visitRounds pull visit rounds) := by
    intro rounds
    induction rounds with
    | zero => exact fetching_pure ()
    | succ n ih =>
      refine (fetching_view _).bind fun state => (hitems _).bind fun on => ?_
      split
      · exact ih
      · exact fetching_pure ()
  exact (fetching_view _).bind hrounds

/-- **A method is at a fetch:** it was started at some time under a limit, and it is about to fetch
under the deadline that it has from there. Behind whatever comes of this the cursor is closed. -/
def AtFetch (c : Cursor α) (started : Int) (limit : Value) (p : Program β) : Prop :=
  ∃ d, Deadline.starting started limit (some generalTimeoutLabel) = .ok d ∧
    ∃ k : Unit → Program β, p = c.closing (c.fetchNext (some d) >>= k)

variable (hdelete : ∀ id body, other (c.request "DELETE" id c.plainLimit body))

include hdelete

/-- Closing a cursor behind a program adds nothing but the release. -/
theorem sendsFrom_closing {V : Program β → Prop} (h : p.SendsFrom V other s) :
    (c.closing p).SendsFrom (fun p' => ∃ body, V body ∧ p' = c.closing body) other s := by
  have hattempt : p.attempt.SendsFrom (fun p' => ∃ body, V body ∧ p' = body.attempt) other s :=
    h.attempt fun body hbody => ⟨body, hbody, rfl⟩
  refine hattempt.bind ?_ fun r s₁ _ => .of_sends ?_
  · rintro _ ⟨body, hbody, rfl⟩
    exact ⟨body, hbody, rfl⟩
  · cases r with
    | ok b =>
      exact Program.Sends.bind (sends_close fun _ => hdelete) fun _ _ => trivial
    | error e =>
      exact Program.Sends.bind (sends_closeAfterFailure fun _ => hdelete) fun _ _ => trivial

/-- **A method that begins with its deadline** sends nothing but releases otherwise than from a
fetch. -/
theorem sendsFrom_underDeadline {limit : Value} {body : Deadline → Program β}
    (hbody : ∀ d, c.Fetching d other (body d)) :
    (c.underDeadline limit fun d => c.closing (body d)).SendsFrom (c.AtFetch s.now limit) other
      s := by
  have hdeadline : (c.deadline limit).wp (.timed fun _ q => other q) (fun r _ _ => ∀ d, r = .ok d →
      Deadline.starting s.now limit (some generalTimeoutLabel) = .ok d) () s := by
    rw [wp_deadline]
    split
    · exact fun d hd => nomatch hd
    · exact fun d hd => hd
  refine Program.SendsFrom.bind (V := fun _ => False)
    (.of_sends (Program.wp_mono hdeadline fun _ _ _ _ => trivial)) (fun _ hfalse => hfalse.elim) ?_
  intro d s₁ hdone q s₂ hq
  have hstart := hdone.of_wp hdeadline d rfl
  refine (sendsFrom_closing hdelete (hbody d s₁) q s₂ hq).imp_right ?_
  rintro ⟨_, s', ⟨_, ⟨k, rfl⟩, rfl⟩, hpoint⟩
  exact ⟨_, s', ⟨d, hstart, k, rfl⟩, hpoint⟩

/-- **Reading all that is left** sends its requests from fetches. -/
theorem sendsFrom_toListWithin {limit : Value} :
    ((c.toListWithin limit).paced pace).SendsFrom (c.AtFetch s.now limit) other s := by
  rw [paced_toListWithin]
  refine sendsFrom_underDeadline hdelete fun d => ?_
  have hdrain : c.Fetching d other (c.drain.paced pace) := by
    refine fetching_of_sends fun s => ?_
    unfold Program.Sends
    rw [wp_paced_drain]
    exact sends_paced_handOut _
  exact hdrain.bind fun _ => (fetching_view _).bind fun rounds =>
    (fetching_collectBy hdrain rounds).bind fun _ => fetching_pure _

/-- **Calling a function on each item that is left** sends from fetches what the function does not
send. -/
theorem sendsFrom_forEach {visit : α → Program Bool} {general timeout : Option Int}
    (hvisit : ∀ a s, ((visit a).paced pace).Sends (fun _ q => other q) s) :
    ((c.forEach visit general timeout).paced pace).SendsFrom
      (c.AtFetch s.now (c.overall general timeout)) other s := by
  rw [paced_forEach]
  refine sendsFrom_underDeadline hdelete fun d => ?_
  refine fetching_visitAll (fetching_fill.bind fun _ => ?_) fun a => fetching_of_sends (hvisit a)
  unfold pop?
  rw [Program.paced_bind]
  exact (fetching_of_sends fun _ => sends_paced_handOut 1).bind fun items => fetching_pure _

end Origins

end Cursor

end AqlClient
