import AqlClient.Proofs.Cursor.Failing
import AqlClient.Proofs.Cursor.Release
import AqlClient.Proofs.Deadline

/-!
# A cursor is released on every way out

A method that reads all that is left, a block that closes the cursor behind itself, and a query that
is read to its end leave the cursor closed and its buffer empty, however they end, and the server
holds nothing for it any more (`Cursor.Over`).

What such a program fails with is what it would have failed with had it not closed the cursor,
whatever becomes of the release (`Prevails`). This rests on the transport: it may fail in the ways
that the client reports, which are logged and forgotten where another failure is on its way already
(`Cursor.wp_closeAfterFailure_expected`). A query closes its cursor twice, once behind the list and
once behind the block around it; the second time there is nothing left to release.

That the cursor is over needs a limit for its methods that is a number (`Value.MayLimit`): else they
fail before they begin, and leave the cursor as it was.
-/

namespace AqlClient

variable {α β γ : Type} {c : Cursor α}

/-! ### Which failure prevails -/

/-- **The first failure prevails:** a program ends as another one would have, but that it may fail
where the other one would have ended well, with a failure that the client reports. -/
structure Prevails (inner outer : Except Failure β) : Prop where
  failure : ∀ e, inner = .error e → outer = .error e
  value : ∀ b, inner = .ok b →
    outer = .ok b ∨ ∃ e, outer = .error e ∧ e.isClientError = true

namespace Prevails

variable {first second third : Except Failure β}

theorem refl (r : Except Failure β) : Prevails r r := ⟨fun _ h => h, fun _ h => .inl h⟩

theorem trans (h : Prevails first second) (h' : Prevails second third) : Prevails first third where
  failure e he := h'.failure e (h.failure e he)
  value b hb := by
    obtain hok | ⟨e, he, hclient⟩ := h.value b hb
    · exact h'.value b hok
    · exact .inr ⟨e, h'.failure e he, hclient⟩

/-- Two programs that begin alike. -/
theorem bind {p : Program γ} {f g : γ → Program β} {s : Scene}
    (h : ∀ a s', p.run s = (.ok a, s') → Prevails ((f a).run s').1 ((g a).run s').1) :
    Prevails ((p >>= f).run s).1 ((p >>= g).run s).1 := by
  rw [Program.run_bind, Program.run_bind]
  cases hp : p.run s with
  | mk r s' =>
    cases r with
    | ok a => exact h a s' hp
    | error e => exact refl _

end Prevails

theorem Failure.isClientError_of_isTransport {e : Failure} (h : e.isTransport = true) :
    e.isClientError = true := by
  cases e with
  | transport e => rfl
  | timeout e => rfl
  | _ => cases h

namespace Cursor

/-- **What a program fails with** it fails with when the cursor is closed behind it, unless the
release has failed in a way that the client does not report. -/
theorem closing_failsWith {fails : Failure → Prop} {s : Scene}
    (hchannel : c.service.gateway.channel = some c.service.mode) (hscript : s.FailsBy fails)
    {body : Program β} {e : Failure} (hbody : (body.run s).1 = .error e) :
    FailsWith e fails ((c.closing body).run s).1 := by
  have hexpected := Program.run_of_hostile
    (Q := fun r => ∀ e, r = .error e → e.isClientError = false ∧ fails e)
    (hscript.before (body.before_run s)) (wp_closeAfterFailure_expected hchannel fun _ _ _ => trivial)
  unfold closing
  rw [Program.run_bind, Program.run_attempt, hbody]
  show FailsWith e fails ((c.closeAfterFailure >>= fun _ => throw e).run (body.run s).2).1
  rw [Program.run_bind]
  cases hclose : c.closeAfterFailure.run (body.run s).2 with
  | mk r s' =>
    cases r with
    | ok _ => exact .inl rfl
    | error e' => exact .inr ⟨e', rfl, hexpected e' (congrArg Prod.fst hclose)⟩

section Closing

variable {s : Scene} (hchannel : c.service.gateway.channel = some c.service.mode)
  (hscript : s.FailsBy fun e => e.isTransport = true)

include hchannel hscript

/-- Closing a cursor fails in a way that the client reports. -/
theorem run_close_client {e : Failure} (h : (c.close.run s).1 = .error e) :
    e.isClientError = true := by
  have hexpected : Expected (fun e => e.isTransport = true) (c.close.run s).1 :=
    Program.run_of_hostile (Q := Expected fun e => e.isTransport = true) hscript
      (wp_close_expected (fun hne => absurd hchannel hne) fun _ _ _ => trivial)
  obtain hclient | htransport := hexpected e h
  · exact hclient
  · exact Failure.isClientError_of_isTransport htransport

/-- **What a program fails with prevails** when the cursor is closed behind it. -/
theorem closing_prevails (body : Program β) :
    Prevails (body.run s).1 ((c.closing body).run s).1 := by
  cases hr : (body.run s).1 with
  | ok b =>
    -- only now closing can fail, and nothing else is lost by that
    have hafter : (body.run s).2.FailsBy fun e => e.isTransport = true :=
      hscript.before (body.before_run s)
    unfold closing
    rw [Program.run_bind, Program.run_attempt, hr]
    show Prevails _ ((c.close >>= fun _ => pure b).run (body.run s).2).1
    rw [Program.run_bind]
    refine ⟨fun e he => (nomatch he), ?_⟩
    rintro _ ⟨⟩
    cases hclose : c.close.run (body.run s).2 with
    | mk r s' =>
      cases r with
      | ok _ => exact .inl rfl
      | error e => exact .inr ⟨e, rfl, run_close_client hchannel hafter (congrArg Prod.fst hclose)⟩
  | error e =>
    -- the failure is on its way, and closing does not take its place
    obtain hfirst | ⟨e', -, hforeign, htransport⟩ := closing_failsWith hchannel hscript hr
    · rw [hfirst]
      exact .refl _
    · rw [Failure.isClientError_of_isTransport htransport] at hforeign
      cases hforeign

end Closing

end Cursor

/-! ### Methods that begin with a deadline -/

/-- A program under what is left of a deadline: nothing at all if nothing limits it. -/
def Deadline.forRest (d : Deadline) (read : Value → Program β) : Program β := do
  let rest ← Program.ofExcept (d.remaining (← Program.now) .null none)
  read ((limiting rest.request).getD (.int 0))

namespace Cursor

/-- A program under a deadline of its own, which nobody begins on a closed cursor. -/
def underDeadline (c : Cursor α) (limit : Value) (body : Deadline → Program β) : Program β := do
  let d ← c.deadline limit
  body d

theorem toListWithin_eq (limit : Value) :
    c.toListWithin limit = c.underDeadline limit fun d => c.closing (c.remainder d) := rfl

theorem forEach_eq (visit : α → Program Bool) (general timeout : Option Int) :
    c.forEach visit general timeout = c.underDeadline (c.overall general timeout) fun d =>
      c.closing (c.visitAll (c.pullUnder d) visit) := rfl

/-- A method that closes the cursor behind itself finishes it, or has found it closed. -/
theorem wp_underDeadline_finished {others : (γ : Type) → Program γ → Prop} {first : Batch}
    {s₀ s : Scene} {w : Bool}
    (hc : c.Attached first) {limit : Value} (hlimit : limit.MayLimit) {body : Deadline → Program β}
    (hbody : ∀ d, (body d).Upholds .alone (c.Accounted others first s₀) fun _ => True)
    (h : c.Accounted others first s₀ w s) :
    (c.underDeadline limit fun d => c.closing (body d)).wp .alone
      (fun _ w s => c.Finished others first s₀ w s) w s := by
  unfold underDeadline
  rw [Program.wp_bind, wp_deadline]
  split
  case isTrue hclosed => exact ⟨h, hclosed⟩
  case isFalse =>
    obtain ⟨d, hd⟩ := Deadline.starting_of_mayLimit hlimit s.now (some generalTimeoutLabel)
    rw [hd, Program.chain_ok]
    exact wp_closing_finished hc (Program.wp_mono (hbody d h) fun _ _ _ hend => hend.1)

theorem underDeadline_prevails {s : Scene}
    (hchannel : c.service.gateway.channel = some c.service.mode)
    (hscript : s.FailsBy fun e => e.isTransport = true) (limit : Value)
    (body : Deadline → Program β) :
    Prevails ((c.underDeadline limit body).run s).1
      ((c.underDeadline limit fun d => c.closing (body d)).run s).1 :=
  Prevails.bind fun d _ hd =>
    closing_prevails hchannel (hscript.before (Program.before_of_run hd)) (body d)

/-! ### Ways out -/

/-- **A program ends well** where it leaves the cursor over, and what another one that does not
close the cursor would have come to prevails. -/
structure EndsWell (c : Cursor α) (others : (γ : Type) → Program γ → Prop) (s₀ s : Scene)
    (inner outer : Program β) : Prop where
  ended : c.Over others s₀ (outer.run s).2
  prevails : Prevails (inner.run s).1 (outer.run s).1

/-- **A cursor is released on every way out:** by the methods that read all that is left, and by
any block behind which it is closed. -/
structure Released (c : Cursor α) (others : (γ : Type) → Program γ → Prop) (s₀ s : Scene) :
    Prop where
  toList : ∀ general timeout, c.EndsWell others s₀ s
    (c.underDeadline (c.overall general timeout) c.remainder) (c.toList general timeout)
  forEach : ∀ visit general timeout, (∀ a, c.Uses others (visit a)) → c.EndsWell others s₀ s
    (c.underDeadline (c.overall general timeout) fun d => c.visitAll (c.pullUnder d) visit)
    (c.forEach visit general timeout)
  closing : ∀ {δ : Type} {body : Program δ}, c.Uses others body →
    c.EndsWell others s₀ s body (c.closing body)

section Exits

variable {others : (γ : Type) → Program γ → Prop} {first : Batch} {s₀ s : Scene} {w : Bool}
  (hc : c.Attached first) (hfresh : c.Fresh first s₀)
  (hscript : s.FailsBy fun e => e.isTransport = true)
  (haccounted : c.Accounted others first s₀ w s)

include hc hfresh hscript haccounted

/-- A block behind which the cursor is closed ends well, if it keeps the accounts in order. -/
theorem closing_endsWell {body : Program β}
    (hbody : body.Upholds .alone (c.Accounted others first s₀) fun _ => True) :
    c.EndsWell others s₀ s body (c.closing body) where
  ended := by
    have hend := (Program.wp_alone _).1 (wp_closing_finished hc
      (Program.wp_mono (hbody haccounted) fun _ _ _ hend => hend.1))
    exact over_of_finished hc hfresh hend
  prevails := closing_prevails hc.channel hscript body

/-- A method that closes the cursor behind itself ends well. -/
theorem underDeadline_endsWell {limit : Value} (hlimit : limit.MayLimit)
    {body : Deadline → Program β}
    (hbody : ∀ d, (body d).Upholds .alone (c.Accounted others first s₀) fun _ => True) :
    c.EndsWell others s₀ s (c.underDeadline limit body)
      (c.underDeadline limit fun d => c.closing (body d)) where
  ended := by
    have hend := (Program.wp_alone _).1 (wp_underDeadline_finished hc hlimit hbody haccounted)
    exact over_of_finished hc hfresh hend
  prevails := underDeadline_prevails hc.channel hscript limit body

/-- **A cursor whose accounts are in order is released on every way out.** -/
theorem released (hothers : ∀ γ (p : Program γ), others γ p → c.Aloof p)
    (hlimit : c.overallLimit.MayLimit) : c.Released others s₀ s where
  toList general timeout := by
    unfold Cursor.toList
    rw [toListWithin_eq]
    exact underDeadline_endsWell hc hfresh hscript haccounted
      (TimeoutSettings.mayLimit_overallOr hlimit general timeout)
      ((upkeep_accounted hc).remainder accounted_handOut)
  forEach visit general timeout hvisit := by
    have hkeep : c.Upkeep .alone (c.Accounted others first s₀) fun _ => True :=
      upkeep_accounted hc
    rw [forEach_eq]
    refine underDeadline_endsWell hc hfresh hscript haccounted
      (TimeoutSettings.mayLimit_overallOr hlimit general timeout) fun d => ?_
    exact Upkeep.visitAll (fun a => (hvisit a).accounted hc hothers)
      (hkeep.pullUnder accounted_handOut d)
  closing hbody := closing_endsWell hc hfresh hscript haccounted (hbody.accounted hc hothers)

end Exits

end Cursor

/-! ### Queries -/

namespace Database

/-- A query up to the making of its cursor, and the deadline for the rest of it. -/
def submitted (d : Database) (q : Query) (mapper : Mapper α)
    (general request timeout : Option Int) : Program (Cursor α × Deadline) := do
  let timeouts := d.session.options.timeouts
  let requestLimit := (request.map Value.int).getD timeouts.request
  let deadline ← Program.ofExcept (Deadline.starting (← Program.now)
    (timeouts.overall general timeout) (some generalTimeoutLabel))
  let limit ← Program.ofExcept
    (deadline.remaining (← Program.now) requestLimit (some requestTimeoutLabel))
  let first ← d.service.submit q limit
  let c ← Cursor.opened d.service mapper requestLimit .null first
  return (c, deadline)

/-- A query that has been submitted is read to its end, and the cursor is closed behind it. -/
theorem query_eq (d : Database) (q : Query) (mapper : Mapper α)
    (general request timeout : Option Int) :
    d.query q mapper general request timeout =
      d.submitted q mapper general request timeout >>= fun made =>
        made.1.closing (made.2.forRest made.1.toListWithin) := by
  unfold submitted
  simp only [Program.bind_assoc]
  rfl

variable {d : Database} {q : Query} {mapper : Mapper α} {s₀ s₁ : Scene}

/-- What a cursor of a blocking session is made of attaches it to the server. -/
theorem attached (hmode : d.session.mode = .blocking) {limit : TimeLimit} {first : Batch}
    (hsubmit : (d.service.submit q limit).run s₀ = (.ok first, s₁))
    (hservice : c.service = d.service) : c.Attached first where
  blocking := by
    rw [hservice]
    exact hmode
  -- a session has a channel of its own mode
  channel := by
    rw [hservice]
    rfl
  named := QueryService.named_of_submit hsubmit

end Database

end AqlClient
