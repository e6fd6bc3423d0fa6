import AqlClient.Proofs.Cursor.Exit
import AqlClient.Proofs.Program.Pace

/-!
# Reading items that take time

A cursor hands out items at two places: it empties its buffer, and it takes the item in front of it.
Everything else that it does is prompt. So a method that reads all that is left, where items take
time, is the same loop around the same parts, but for these two places (`Cursor.paced_toListWithin`,
`Cursor.paced_forEach`).
-/

namespace AqlClient

variable {α β ω : Type} {c : Cursor α} {pace : Scene → Int}

open Program

namespace Cursor

/-! ### What is prompt -/

theorem prompt_ingest (b : Batch) : (c.ingest b).Prompt := by
  have hreport : (c.reportWarnings b).Prompt := by
    unfold reportWarnings
    split
    · exact prompt_pure ()
    · exact prompt_bind (prompt_ofExcept _) fun _ => prompt_each _ fun _ => prompt_record _ _
  exact prompt_bind (prompt_update rfl) fun _ => prompt_bind hreport fun _ => prompt_update rfl

theorem prompt_fetchBatch (deadline : Option Deadline) : (c.fetchBatch deadline).Prompt := by
  have hid : c.liveId.Prompt := by
    refine prompt_bind (prompt_view _) fun s => ?_
    split
    · exact prompt_pure _
    · exact prompt_throw _
  have hlimit : (c.limitUnder deadline).Prompt := by
    cases deadline with
    | none => exact prompt_pure _
    | some d => exact prompt_bind (prompt_view _) fun _ => prompt_ofExcept _
  exact prompt_bind hid fun id => prompt_bind hlimit fun limit =>
    QueryService.prompt_fetch _ id limit

theorem prompt_fetchNext (deadline : Option Deadline) : (c.fetchNext deadline).Prompt := by
  have halone : (c.fetchAlone deadline).Prompt := by
    refine prompt_bind (prompt_view _) fun s => ?_
    split
    · exact prompt_bind (prompt_throw _) fun _ => prompt_bind (prompt_update rfl) fun _ =>
        prompt_bind (prompt_attempt (prompt_fetchBatch deadline)) fun _ =>
          prompt_bind (prompt_update rfl) fun _ => prompt_ofExcept _
    · exact prompt_bind (prompt_update rfl) fun _ =>
        prompt_bind (prompt_attempt (prompt_fetchBatch deadline)) fun _ =>
          prompt_bind (prompt_update rfl) fun _ => prompt_ofExcept _
  unfold fetchNext
  split
  · exact prompt_bind (prompt_fetchBatch deadline) prompt_ingest
  · exact prompt_bind halone prompt_ingest

theorem prompt_fill (deadline : Option Deadline) : (c.fill deadline).Prompt := by
  have hwithin : ∀ rounds, (c.fillWithin deadline rounds).Prompt := by
    intro rounds
    induction rounds with
    | zero => exact prompt_pure ()
    | succ n ih =>
      refine prompt_bind (prompt_view _) fun state => ?_
      split
      · exact prompt_bind (prompt_fetchNext deadline) fun _ => ih
      · exact prompt_pure ()
  exact prompt_bind (prompt_view _) hwithin

theorem prompt_close : c.close.Prompt := by
  refine prompt_bind (prompt_view _) fun state => prompt_bind (prompt_update rfl) fun _ => ?_
  split
  · exact prompt_pure ()
  · exact QueryService.prompt_release _ _ _

theorem prompt_closeAfterFailure : c.closeAfterFailure.Prompt := by
  refine prompt_bind (prompt_attempt prompt_close) fun r => ?_
  cases r with
  | ok _ => exact prompt_pure ()
  | error e =>
    show (if e.isClientError = true then _ else _ : Program Unit).Prompt
    split
    · exact prompt_bind (prompt_view _) fun _ => prompt_record _ _
    · exact prompt_throw e

theorem prompt_deadline (overall : Value) : (c.deadline overall).Prompt := by
  have halive : c.ensureAlive.Prompt := by
    refine prompt_bind (prompt_view _) fun state => ?_
    split
    · exact prompt_throw _
    · exact prompt_pure ()
  exact prompt_bind halive fun _ => prompt_bind (prompt_view _) fun _ => prompt_ofExcept _

/-! ### What takes time -/

/-- A cursor is closed promptly behind a program. -/
theorem paced_closing (body : Program β) :
    (c.closing body).paced pace = c.closing (body.paced pace) := by
  unfold closing
  rw [paced_bind, paced_attempt]
  refine congrArg (_ >>= ·) (funext fun r => ?_)
  cases r with
  | ok b => exact prompt_bind prompt_close (fun _ => prompt_pure b) pace
  | error e => exact prompt_bind prompt_closeAfterFailure (fun _ => prompt_throw e) pace

theorem paced_underDeadline (limit : Value) (body : Deadline → Program β) :
    (c.underDeadline limit body).paced pace =
      c.underDeadline limit fun d => (body d).paced pace :=
  (prompt_deadline limit).paced_bind _

theorem paced_collectBy (drain : Program (List α)) (d : Deadline) (rounds : Nat) :
    (c.collectBy drain d rounds).paced pace = c.collectBy (drain.paced pace) d rounds := by
  induction rounds with
  | zero => rfl
  | succ n ih =>
    unfold collectBy
    -- looking and fetching are prompt, so that the pace gets through to handing out
    refine ((prompt_view _).paced_bind _).trans (congrArg (_ >>= ·) (funext fun state => ?_))
    split
    · rw [(prompt_fetchNext _).paced_bind]
      refine congrArg (_ >>= ·) (funext fun _ => ?_)
      rw [paced_bind]
      refine congrArg (_ >>= ·) (funext fun items => ?_)
      rw [paced_bind, ih]
      rfl
    · rfl

/-- **All that is left,** where items take time. -/
theorem paced_toListWithin (limit : Value) : (c.toListWithin limit).paced pace =
    c.underDeadline limit fun d => c.closing (c.remainderBy (c.drain.paced pace) d) := by
  rw [toListWithin_eq, paced_underDeadline]
  refine congrArg (c.underDeadline limit) (funext fun d => ?_)
  rw [paced_closing, remainder_eq]
  unfold remainderBy
  rw [paced_bind]
  refine congrArg c.closing (congrArg (_ >>= ·) (funext fun items => ?_))
  refine ((prompt_view _).paced_bind _).trans (congrArg (_ >>= ·) (funext fun rounds => ?_))
  rw [paced_bind, paced_collectBy]
  rfl

theorem paced_visitItems (pull : Program (Option α)) (visit : α → Program Bool) (number : Nat) :
    (visitItems pull visit number).paced pace =
      visitItems (pull.paced pace) (fun a => (visit a).paced pace) number := by
  induction number with
  | zero => rfl
  | succ n ih =>
    unfold visitItems
    rw [paced_bind]
    refine congrArg (_ >>= ·) (funext fun a? => ?_)
    cases a? with
    | none => rfl
    | some a =>
      refine (paced_bind _ _).trans (congrArg (_ >>= ·) (funext fun on => ?_))
      cases on with
      | true => exact ih
      | false => rfl

theorem paced_visitAll (pull : Program (Option α)) (visit : α → Program Bool) :
    (c.visitAll pull visit).paced pace =
      c.visitAll (pull.paced pace) fun a => (visit a).paced pace := by
  have hrounds : ∀ rounds, (c.visitRounds pull visit rounds).paced pace =
      c.visitRounds (pull.paced pace) (fun a => (visit a).paced pace) rounds := by
    intro rounds
    induction rounds with
    | zero => rfl
    | succ n ih =>
      unfold visitRounds
      refine ((prompt_view _).paced_bind _).trans (congrArg (_ >>= ·) (funext fun state => ?_))
      rw [paced_bind, paced_visitItems]
      refine congrArg (_ >>= ·) (funext fun on => ?_)
      cases on with
      | true => exact ih
      | false => rfl
  exact ((prompt_view _).paced_bind _).trans (congrArg (_ >>= ·) (funext hrounds))

/-- The next item under a deadline, with a way to take the one in front of the buffer. -/
def pullBy (c : Cursor α) (pop : Program (Option α)) (d : Deadline) : Program (Option α) := do
  c.fill (some d)
  pop

/-- **A function is called on each item that is left,** where items take time. -/
theorem paced_forEach (visit : α → Program Bool) (general timeout : Option Int) :
    (c.forEach visit general timeout).paced pace =
      c.underDeadline (c.overall general timeout) fun d => c.closing
        (c.visitAll (c.pullBy (c.pop?.paced pace) d) fun a => (visit a).paced pace) := by
  rw [forEach_eq, paced_underDeadline]
  refine congrArg (c.underDeadline _) (funext fun d => ?_)
  rw [paced_closing, paced_visitAll]
  refine congrArg c.closing (congrArg (c.visitAll · _) ?_)
  exact (prompt_fill _).paced_bind _

/-! ### Handing out -/

variable {D : Discipline ω} {I : ω → Scene → Prop} {F : Failure → ω → Scene → Prop} {w : ω}
  {s : Scene}

/-- Some time passes while items are handed out. -/
theorem wp_paced_handOut (number : Nat) (Q : Except Failure (List α) → ω → Scene → Prop) :
    ((c.handOut number).paced pace).wp D Q w s ↔
      match c.mapper.convert (s.cursors c.ref).consumed ((s.cursors c.ref).buffer.take number) with
      | .ok items => Q (.ok items) w ((s.elapse (pace s)).changeCursor c.ref (.taken number))
      | .error e => Q (.error e) w s := by
  have hpaced : (c.handOut number).paced pace = (c.look >>= fun state =>
      Program.ofExcept (c.mapper.convert state.consumed (state.buffer.take number)) >>= fun items =>
        (c.update (.taken number)).paced pace >>= fun _ => pure items) := by
    unfold handOut
    refine ((prompt_view _).paced_bind _).trans (congrArg (_ >>= ·) (funext fun state => ?_))
    refine ((prompt_ofExcept _).paced_bind _).trans (congrArg (_ >>= ·) (funext fun items => ?_))
    exact paced_bind _ _
  rw [hpaced, wp_look, wp_bind, wp_ofExcept]
  cases c.mapper.convert (s.cursors c.ref).consumed ((s.cursors c.ref).buffer.take number) with
  | ok items => rfl
  | error e => rfl

theorem wp_paced_drain (Q : Except Failure (List α) → ω → Scene → Prop) :
    (c.drain.paced pace).wp D Q w s ↔
      ((c.handOut (s.cursors c.ref).buffer.length).paced pace).wp D Q w s := by
  unfold drain
  rw [show (c.look >>= fun state => c.handOut state.buffer.length).paced pace = _ from
    (prompt_view _).paced_bind _]
  exact wp_look _

section Handing

variable (hand : ∀ number, ((c.handOut number).paced pace).Stays D I F)

include hand

theorem empties_paced_drain : c.Empties D I F (c.drain.paced pace) := by
  intro w s hI
  have hhand := hand (s.cursors c.ref).buffer.length hI
  rw [wp_paced_drain]
  rw [wp_paced_handOut] at hhand ⊢
  split at hhand
  case h_1 items _ =>
    refine ⟨hhand, ?_⟩
    rw [Scene.changeCursor_cursors_self]
    exact List.drop_length
  case h_2 e _ => exact hhand

theorem stays_paced_pop : (c.pop?.paced pace).Stays D I F := by
  unfold pop?
  rw [paced_bind]
  exact stays_bind (hand 1) fun items => stays_pure items.head?

end Handing

/-- An item is pulled on course. -/
theorem Supplied.pullBy {d : Deadline} {pop : Program (Option α)} (h : c.Supplied D (some d) I F)
    (hpop : pop.Stays D I F) : (c.pullBy pop d).Stays D I F :=
  stays_bind h.fill fun _ => hpop

end Cursor

end AqlClient
