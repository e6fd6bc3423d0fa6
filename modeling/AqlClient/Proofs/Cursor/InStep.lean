import AqlClient.Proofs.Modes
import AqlClient.Proofs.Program.InStep

/-!
# Cursors in step

A cursor may go through another gateway (`Cursor.through`). If that is a sibling of its own one,
nobody can tell by what is logged or by what comes of it: each operation of the cursor is in step
with itself, through one gateway and through the other. Only fetching and closing go through the
gateway at all; all other operations are made of them and of what the cursor does for itself.
-/

namespace AqlClient

variable {α β γ : Type}

open Program (InStep)

/-- A query service that goes through another gateway. -/
def QueryService.through (service : QueryService) (g : Gateway) : QueryService :=
  { service with gateway := g }

namespace QueryService

variable {service : QueryService} {g : Gateway} (h : service.gateway.Sibling g)

include h

/-- What comes behind the request of a query or of a fetch. -/
theorem inStep_readBatch (call : Call) (before after : String) :
    InStep Eq
      (do service.report before
          let envelope ← service.gateway.request service.mode call
          service.report after
          Program.ofExcept (Batch.ofEnvelope envelope))
      (do service.report before
          let envelope ← g.request service.mode call
          service.report after
          Program.ofExcept (Batch.ofEnvelope envelope)) := by
  refine .andThen (.record _ _) fun _ => (h.inStep_request _ call).andThen fun envelope => ?_
  exact .andThen (.record _ _) fun _ => .ofExcept _

theorem inStep_submit (q : Query) (limit : TimeLimit) :
    InStep Eq (service.submit q limit) ((service.through g).submit q limit) :=
  inStep_readBatch h _ _ _

theorem inStep_fetch (id : String) (limit : TimeLimit) :
    InStep Eq (service.fetch id limit) ((service.through g).fetch id limit) :=
  inStep_readBatch h _ _ _

theorem inStep_release (id : String) (limit : TimeLimit) :
    InStep Eq (service.release id limit) ((service.through g).release id limit) := by
  unfold QueryService.release
  refine .andThen (.record _ _) fun _ => ?_
  refine (h.inStep_request _ _).attempt.bind fun r r' hr => ?_
  -- the answer to the release is the same, so that a cursor is gone in both cases or in none
  cases hr with
  | ok _ => exact .record _ _
  | error e =>
    cases e with
    | server e =>
      show InStep Eq (if e.saysCursorGone = true then _ else _)
        (if e.saysCursorGone = true then _ else _)
      split
      · exact .record _ _
      · exact .throw _
    | _ => exact .throw _

end QueryService

namespace Cursor

/-- A cursor that goes through another gateway. -/
def through (c : Cursor α) (g : Gateway) : Cursor α := { c with service := c.service.through g }

/-! ### What does not go through the gateway -/

section Own

variable (c : Cursor α)

theorem inStep_look : InStep Eq c.look c.look := .view fun _ => rfl

theorem inStep_ensureAlive : InStep Eq c.ensureAlive c.ensureAlive := by
  refine c.inStep_look.andThen fun state => ?_
  split
  · exact .throw _
  · exact .pure rfl

theorem inStep_ingest (b : Batch) : InStep Eq (c.ingest b) (c.ingest b) := by
  have hreport : InStep Eq (c.reportWarnings b) (c.reportWarnings b) := by
    unfold reportWarnings
    split
    · exact .pure rfl
    · exact .andThen (.ofExcept _) fun warnings => .lines _ _ fun _ => .record _ _
  exact .andThen (.update _) fun _ => hreport.andThen fun _ => .update _

theorem inStep_handOut (number : Nat) : InStep Eq (c.handOut number) (c.handOut number) := by
  refine c.inStep_look.andThen fun state => .andThen (.ofExcept _) fun items => ?_
  exact .andThen (.update _) fun _ => .pure rfl

theorem inStep_drain : InStep Eq c.drain c.drain :=
  c.inStep_look.andThen fun _ => c.inStep_handOut _

theorem inStep_pop : InStep Eq c.pop? c.pop? :=
  (c.inStep_handOut 1).returning _

theorem inStep_liveId : InStep Eq c.liveId c.liveId := by
  refine c.inStep_look.andThen fun state => ?_
  split
  · exact .pure rfl
  · exact .throw _

theorem inStep_limitUnder (deadline : Option Deadline) :
    InStep Eq (c.limitUnder deadline) (c.limitUnder deadline) := by
  cases deadline with
  | none => exact .pure rfl
  | some d => exact InStep.now.andThen fun _ => .ofExcept _

theorem inStep_deadline (limit : Value) : InStep Eq (c.deadline limit) (c.deadline limit) :=
  c.inStep_ensureAlive.andThen fun _ => InStep.now.andThen fun _ => .ofExcept _

theorem inStep_extra : InStep Eq c.extra c.extra := by
  refine c.inStep_look.andThen fun state => ?_
  split
  · exact .pure rfl
  · exact .ofExcept _

theorem inStep_abandon : InStep Eq c.abandon c.abandon := by
  refine c.inStep_look.andThen fun state => ?_
  exact .andThen (.lines _ _ fun _ => .record _ _) fun _ => .pure rfl

end Own

/-! ### What goes through the gateway -/

section Veiled

variable {c : Cursor α} {g : Gateway} (h : c.service.gateway.Sibling g)

include h

theorem inStep_fetchBatch (deadline : Option Deadline) :
    InStep Eq (c.fetchBatch deadline) ((c.through g).fetchBatch deadline) :=
  c.inStep_liveId.andThen fun id => (c.inStep_limitUnder deadline).andThen fun limit =>
    QueryService.inStep_fetch h id limit

theorem inStep_fetchAlone (deadline : Option Deadline) :
    InStep Eq (c.fetchAlone deadline) ((c.through g).fetchAlone deadline) := by
  unfold fetchAlone
  refine c.inStep_look.andThen fun state => ?_
  split
  · exact .throw _
  · -- the flag is set and taken back around the exchange
    refine .andThen (.update _) fun _ => ?_
    refine (inStep_fetchBatch h deadline).attempt.bind fun r r' hr => ?_
    rw [hr.eq]
    exact .andThen (.update _) fun _ => .ofExcept _

theorem inStep_fetchNext (deadline : Option Deadline) :
    InStep Eq (c.fetchNext deadline) ((c.through g).fetchNext deadline) := by
  have honce : InStep Eq (c.fetchOnce deadline) ((c.through g).fetchOnce deadline) := by
    have hmode : (c.through g).service.mode = c.service.mode := rfl
    unfold fetchOnce
    rw [hmode]
    cases c.service.mode with
    | blocking => exact inStep_fetchBatch h deadline
    | async => exact inStep_fetchAlone h deadline
  rw [fetchNext_eq, fetchNext_eq]
  exact honce.andThen fun b => c.inStep_ingest b

theorem inStep_close : InStep Eq c.close (c.through g).close := by
  refine c.inStep_look.andThen fun state => .andThen (.update _) fun _ => ?_
  cases state.toRelease with
  | none => exact .pure rfl
  | some id => exact QueryService.inStep_release h id _

theorem inStep_closeAfterFailure :
    InStep Eq c.closeAfterFailure (c.through g).closeAfterFailure := by
  refine (inStep_close h).attempt.bind fun r r' hr => ?_
  cases hr with
  | ok _ => exact .pure rfl
  | error e =>
    show InStep Eq (if e.isClientError = true then _ else _)
      (if e.isClientError = true then _ else _)
    split
    · exact c.inStep_look.andThen fun _ => .record _ _
    · exact .throw _

/-- Behind programs in step the cursor is closed in step. -/
theorem inStep_closing {R : β → γ → Prop} {body : Program β} {body' : Program γ}
    (hbody : InStep R body body') : InStep R (c.closing body) ((c.through g).closing body') := by
  refine hbody.attempt.bind fun r r' hr => ?_
  cases hr with
  | ok hab => exact (inStep_close h).andThen fun _ => .pure hab
  | error e => exact (inStep_closeAfterFailure h).andThen fun _ => .throw e

theorem inStep_leave (failed : Bool) : InStep Eq (c.leave failed) ((c.through g).leave failed) := by
  cases failed with
  | true => exact inStep_closeAfterFailure h
  | false => exact inStep_close h

/-! ### Reading -/

theorem inStep_fill (deadline : Option Deadline) :
    InStep Eq (c.fill deadline) ((c.through g).fill deadline) := by
  have hwithin : ∀ rounds,
      InStep Eq (c.fillWithin deadline rounds) ((c.through g).fillWithin deadline rounds) := by
    intro rounds
    induction rounds with
    | zero => exact .pure rfl
    | succ n ih =>
      refine c.inStep_look.andThen fun state => ?_
      split
      · exact (inStep_fetchNext h deadline).andThen fun _ => ih
      · exact .pure rfl
  exact .andThen (.view fun _ => rfl) hwithin

theorem inStep_nextBatch : InStep Eq c.nextBatch (c.through g).nextBatch := by
  refine c.inStep_look.andThen fun state => ?_
  split
  · exact (inStep_fetchNext h none).andThen fun _ => c.inStep_drain
  · exact c.inStep_drain

theorem inStep_next : InStep Eq c.next? (c.through g).next? := by
  refine c.inStep_look.andThen fun state => ?_
  split
  · exact .pure rfl
  · refine (inStep_fill h none).andThen fun _ => c.inStep_look.andThen fun state => ?_
    split
    · exact (inStep_close h).returning _
    · exact c.inStep_pop

theorem inStep_hasNext : InStep Eq c.hasNext (c.through g).hasNext := by
  refine c.inStep_look.andThen fun state => ?_
  split
  · exact .pure rfl
  · exact (inStep_fill h none).andThen fun _ => c.inStep_look.returning _

/-! ### Draining -/

theorem inStep_toListWithin (limit : Value) :
    InStep Eq (c.toListWithin limit) ((c.through g).toListWithin limit) := by
  have hcollect : ∀ (d : Deadline) (rounds : Nat),
      InStep Eq (c.collect d rounds) ((c.through g).collect d rounds) := by
    intro d rounds
    induction rounds with
    | zero => exact .pure rfl
    | succ n ih =>
      refine c.inStep_look.andThen fun state => ?_
      split
      · refine (inStep_fetchNext h (some d)).andThen fun _ => c.inStep_drain.andThen fun items => ?_
        exact ih.returning _
      · exact .pure rfl
  refine (c.inStep_deadline limit).andThen fun d => inStep_closing h ?_
  refine c.inStep_drain.andThen fun items => .andThen (.view fun _ => rfl) fun rounds => ?_
  exact (hcollect d rounds).returning _

theorem inStep_toList (general timeout : Option Int) :
    InStep Eq (c.toList general timeout) ((c.through g).toList general timeout) :=
  inStep_toListWithin h _

section Visits

variable {visit visit' : α → Program Bool} (hvisit : ∀ a, InStep Eq (visit a) (visit' a))

include hvisit

omit h in
/-- Functions in step are called in step on all items that are taken in step. -/
theorem inStep_visitAll {pull pull' : Program (Option α)} (hpull : InStep Eq pull pull') :
    InStep Eq (c.visitAll pull visit) ((c.through g).visitAll pull' visit') := by
  have hitems : ∀ number,
      InStep Eq (visitItems pull visit number) (visitItems pull' visit' number) := by
    intro number
    induction number with
    | zero => exact .pure rfl
    | succ n ih =>
      refine hpull.andThen fun a? => ?_
      cases a? with
      | none => exact .pure rfl
      | some a =>
        refine (hvisit a).andThen fun on => ?_
        split
        · exact ih
        · exact .pure rfl
  have hrounds : ∀ rounds,
      InStep Eq (c.visitRounds pull visit rounds)
        ((c.through g).visitRounds pull' visit' rounds) := by
    intro rounds
    induction rounds with
    | zero => exact .pure rfl
    | succ n ih =>
      refine c.inStep_look.andThen fun state => (hitems _).andThen fun on => ?_
      split
      · exact ih
      · exact .pure rfl
  exact .andThen (.view fun _ => rfl) hrounds

theorem inStep_forEach (general timeout : Option Int) :
    InStep Eq (c.forEach visit general timeout) ((c.through g).forEach visit' general timeout) := by
  refine (c.inStep_deadline _).andThen fun d => inStep_closing h ?_
  exact inStep_visitAll hvisit ((inStep_fill h (some d)).andThen fun _ => c.inStep_pop)

theorem inStep_iterate : InStep Eq (c.iterate visit) ((c.through g).iterate visit') :=
  c.inStep_ensureAlive.andThen fun _ => inStep_visitAll hvisit (inStep_next h)

end Visits

end Veiled

/-! ### Making cursors -/

/-- **Cursors that differ in hidden headers alone:** they go through sibling gateways. -/
def Sibling (c c' : Cursor α) : Prop := ∃ g, c.service.gateway.Sibling g ∧ c' = c.through g

/-- A cursor is made at the same place, whatever gateway it goes through. -/
theorem inStep_opened {service : QueryService} {g : Gateway} (h : service.gateway.Sibling g)
    (mapper : Mapper α) (requestLimit overallLimit : Value) (first : Batch) :
    InStep Sibling (opened service mapper requestLimit overallLimit first)
      (opened (service.through g) mapper requestLimit overallLimit first) := by
  refine .andThen (.view fun _ => rfl) fun ref => .andThen (.update _) fun _ => ?_
  let c : Cursor α := ⟨ref, service, mapper, requestLimit, overallLimit⟩
  exact (c.inStep_ingest first).andThen fun _ => .pure ⟨g, h, rfl⟩

end Cursor

end AqlClient
