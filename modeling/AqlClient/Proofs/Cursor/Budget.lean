import AqlClient.Proofs.Cursor.Fetching
import AqlClient.Proofs.Cursor.Pace
import AqlClient.Proofs.Deadline
import AqlClient.Proofs.Envelope

/-!
# Reading within a budget

A method that reads a cursor to its end fetches as long as its deadline has not passed. Where every
exchange takes some time (`Scene.Slow`), the deadline is a budget: each fetch costs at least a
millisecond, so that no more than there are milliseconds can be made (`Scene.Spends`), whatever the
server sends and however much of it there is. What the functions do that are called on items is told
apart from the fetches of the method (`Scene.tally`), and may take any time (`Program.Bystands`).

A method that runs out of time does so where it needs another batch of a live cursor. So there is
something to release, and the release is the last request of the method (`Cursor.WithinBudget`).
-/

namespace AqlClient

variable {α β ω : Type} {c : Cursor α} {foreign : Request → Bool} {s s' s'' s₁ : Scene} {w : ω}
  {T cap : Int} {d : Deadline} {pace : Scene → Int}

/-- Whether a failure is the timeout of a deadline. -/
def Failure.isOverdue : Failure → Bool
  | .timeout (.deadline _ _) => true
  | _ => false

theorem Readable.not_overdue {r : Except Failure α} (h : Readable r) {e : Failure}
    (he : r = .error e) : e.isOverdue = false := by
  have hanswer := h e he
  cases e with
  | timeout e => cases hanswer
  | _ => rfl

/-- A deadline has no part in how an exchange fails. -/
theorem Playback.reply_not_overdue {p : Playback} {q : Request} {e : Failure}
    (h : p.reply q = .error e) : e.isOverdue = false := by
  cases p <;> cases h <;> rfl

/-- Nor in how what comes back is read. -/
theorem Gateway.reading_not_overdue {g : Gateway} {call : Call} {p : Playback} {q : Request}
    {e : Failure} (h : g.reading call (p.reply q) = .error e) : e.isOverdue = false := by
  unfold reading at h
  cases hreply : p.reply q with
  | error e' =>
    rw [hreply] at h
    cases h
    exact Playback.reply_not_overdue hreply
  | ok response =>
    rw [hreply] at h
    exact (Envelope.readable_read response _).not_overdue h

/-- Nor in what a mapper does not accept. -/
theorem Mapper.convert_not_overdue {mapper : Mapper α} {offset : Int} {raw : List Value}
    {e : Failure} (h : mapper.convert offset raw = .error e) : e.isOverdue = false := by
  obtain ⟨index, item, fault, rfl⟩ := fault_of_convert h
  cases fault with
  | rejected reason => rfl
  | aborted reason => rfl

/-! ### Counting requests -/

/-- Whether a request is of a kind and not foreign. -/
def Request.counts (foreign : Request → Bool) (method : String) (q : Request) : Bool :=
  q.method == method && !foreign q

/-- How many requests of a kind have been sent that are not foreign. -/
def Scene.tally (s : Scene) (foreign : Request → Bool) (method : String) : Nat :=
  s.sent.countP (Request.counts foreign method)

namespace Scene

theorem Still.tally (h : s.Still s') (method : String) :
    s'.tally foreign method = s.tally foreign method := by
  unfold Scene.tally
  rw [h.sent]

/-- An exchange counts at most once. -/
theorem Exchanged.tally_le {q : Request} (h : s.Exchanged q s') (method : String) :
    s'.tally foreign method ≤ s.tally foreign method + 1 := by
  unfold Scene.tally
  rw [h.sent, List.countP_append]
  exact Nat.add_le_add_left List.countP_le_length _

/-- A request of another kind does not count. -/
theorem Exchanged.tally_eq {q : Request} (h : s.Exchanged q s') {method : String}
    (hmethod : q.method ≠ method) : s'.tally foreign method = s.tally foreign method := by
  have hother : Request.counts foreign method q = false := by
    unfold Request.counts
    rw [beq_eq_false_iff_ne.2 hmethod]
    rfl
  unfold Scene.tally
  rw [h.sent, List.countP_append, List.countP_singleton, hother]
  rfl

/-- The time behind an exchange. -/
theorem Exchanged.now {q : Request} (h : s.Exchanged q s') :
    s'.now = s.now + (s.send q).1.elapsed := by
  have htime : s'.now = s.timeAfter 1 := h.time 0
  rw [htime]
  unfold timeAfter Scene.send
  cases s.script with
  | nil => exact (Int.add_zero _).symm
  | cons o rest => rfl

/-- **Every exchange takes time,** a millisecond or more. -/
def Slow (s : Scene) : Prop := ∀ o ∈ s.script, 1 ≤ o.elapsed

theorem Slow.exchanged {q : Request} (h : s.Slow) (hexchanged : s.Exchanged q s') : s'.Slow := by
  intro o ho
  rw [hexchanged.script] at ho
  exact h o (List.mem_of_mem_tail ho)

/-- An exchange that comes to something takes time. -/
theorem Slow.elapsed {q : Request} (h : s.Slow) (hscript : s.script ≠ []) :
    1 ≤ (s.send q).1.elapsed := by
  unfold Scene.send
  cases hs : s.script with
  | nil => exact absurd hs hscript
  | cons o rest => exact h o (hs ▸ List.mem_cons_self)

end Scene

/-- **A program that is a bystander:** it sends no request that counts, does not turn the clock
back, lets each of its exchanges take some time, and does not fail with the timeout of a deadline.
-/
structure Program.Bystands (p : Program β) (foreign : Request → Bool) : Prop where
  tally : ∀ (s : Scene) (method : String), (p.run s).2.tally foreign method = s.tally foreign method
  time : ∀ s : Scene, s.Slow →
    ∃ number : Nat, (p.run s).2.script = s.script.drop number ∧ s.now + number ≤ (p.run s).2.now
  overdue : ∀ (s : Scene) (e : Failure), (p.run s).1 = .error e → e.isOverdue = false

/-- **A budget is spent** since a scene: no more is sent than time passes, nor than there are
milliseconds in the budget, and nothing is released. -/
structure Scene.Spends (foreign : Request → Bool) (T : Int) (s s' : Scene) : Prop where
  slow : s'.Slow
  paid : (s'.tally foreign "PUT" : Int) + s.now ≤ s.tally foreign "PUT" + s'.now
  within : (s'.tally foreign "PUT" : Int) ≤ s.tally foreign "PUT" + T
  kept : s'.tally foreign "DELETE" = s.tally foreign "DELETE"

namespace Scene.Spends

theorem refl (hslow : s.Slow) (hT : 0 ≤ T) : s.Spends foreign T s :=
  ⟨hslow, Int.le_refl _, by omega, rfl⟩

/-- A bystander leaves the budget alone. -/
theorem bystand {p : Program β} (h : s.Spends foreign T s') (hp : p.Bystands foreign) :
    s.Spends foreign T (p.run s').2 := by
  obtain ⟨number, hscript, htime⟩ := hp.time s' h.slow
  have hput := hp.tally s' "PUT"
  refine ⟨fun o ho => ?_, ?_, ?_, ?_⟩
  · rw [hscript] at ho
    exact h.slow o (List.mem_of_mem_drop ho)
  · have hpaid := h.paid
    rw [hput]
    omega
  · rw [hput]
    exact h.within
  · rw [hp.tally s' "DELETE"]
    exact h.kept

/-- Items are handed out in some time. -/
theorem handOut (h : s.Spends foreign T s') {ms : Int} (hms : 0 ≤ ms) (ref number : Nat) :
    s.Spends foreign T ((s'.elapse ms).changeCursor ref (.taken number)) := by
  have hsent : ((s'.elapse ms).changeCursor ref (.taken number)).sent = s'.sent :=
    Scene.changeCursor_sent _ _ _
  have htally : ∀ method, ((s'.elapse ms).changeCursor ref (.taken number)).tally foreign method =
      s'.tally foreign method := by
    intro method
    unfold Scene.tally
    rw [hsent]
  refine ⟨h.slow, ?_, ?_, ?_⟩
  · have hpaid := h.paid
    rw [htally]
    show _ ≤ _ + (s'.now + ms)
    omega
  · rw [htally]
    exact h.within
  · rw [htally]
    exact h.kept

end Scene.Spends

/-! ### A fetch -/

namespace Cursor

/-- **What an attempt to fetch comes to:** it is refused before anything is sent, for lack of a
name, because of another fetch, or by the deadline; or it comes to what the next outcome says. -/
inductive Tried (c : Cursor α) (deadline : Option Deadline) (s : Scene) :
    Except Failure Unit → Scene → Prop
  | refused {e : Failure} {s' : Scene} : s.Still s' →
      (e.isOverdue = true → c.limitAt deadline s.now = .error e ∧
        (s'.cursors c.ref).phase = (s.cursors c.ref).phase ∧
        (s'.cursors c.ref).cursorId.isSome = true) → Tried c deadline s (.error e) s'
  | sent {id : String} {limit : TimeLimit} {s' : Scene} : c.limitAt deadline s.now = .ok limit →
      s.Exchanged (c.request "PUT" id limit none) s' →
      Tried c deadline s ((c.answer id limit (s.send (c.request "PUT" id limit none)).1).bind
        Batch.warned) s'

theorem answer_not_overdue {id : String} {limit : TimeLimit} {o : Outcome} {e : Failure}
    (h : c.answer id limit o = .error e) : e.isOverdue = false := by
  unfold answer at h
  cases hread : c.service.gateway.reading (QueryService.cursorCall "PUT" id limit)
      (o.playback.reply (c.request "PUT" id limit none)) with
  | error e' =>
    rw [hread] at h
    cases h
    exact Gateway.reading_not_overdue hread
  | ok envelope =>
    rw [hread] at h
    exact (Batch.readable_ofEnvelope envelope).not_overdue h

section Fetching

variable (hchannel : c.service.gateway.channel = some c.service.mode) {deadline : Option Deadline}

include hchannel

theorem wp_fetchBatch_tried : (c.fetchBatch deadline).wp .alone (fun r _ s' =>
    (∃ e, r = .error e ∧ s' = s ∧ (e.isOverdue = true → c.limitAt deadline s.now = .error e ∧
      (s.cursors c.ref).cursorId.isSome = true)) ∨
    ∃ id limit, c.limitAt deadline s.now = .ok limit ∧
      r = c.answer id limit (s.send (c.request "PUT" id limit none)).1 ∧
      s.Exchanged (c.request "PUT" id limit none) s') w s := by
  refine wp_fetchBatch_of ?_ ?_ ?_
  · exact fun _ => .inl ⟨.noCursorId, rfl, rfl, fun hoverdue => nomatch hoverdue⟩
  · exact fun id e hid he => .inl ⟨e, rfl, rfl, fun _ => ⟨he, Option.isSome_of_eq_some hid⟩⟩
  · intro id limit _ hlimit
    refine Program.wp_mono (Gateway.wp_asked hchannel rfl _ _ _) ?_
    exact fun r _ s' h => .inr ⟨id, limit, hlimit, h.1, h.2.exchanged⟩

/-- **An attempt to fetch.** -/
theorem wp_fetchNext_tried :
    (c.fetchNext deadline).wp .alone (fun r _ s' => c.Tried deadline s r s') w s := by
  -- what comes behind the exchange is the same in both modes
  have hingest : ∀ {fetch : Program Batch}, fetch.wp .alone (fun r _ s' =>
      (∃ e, r = .error e ∧ c.Tried deadline s (.error e) s') ∨
      ∃ id limit, c.limitAt deadline s.now = .ok limit ∧
        r = c.answer id limit (s.send (c.request "PUT" id limit none)).1 ∧
        s.Exchanged (c.request "PUT" id limit none) s') w s →
      (fetch >>= c.ingest).wp .alone (fun r _ s' => c.Tried deadline s r s') w s := by
    intro fetch hfetch
    refine Program.wp_seq hfetch ?_ ?_
    · rintro b w s₁ (⟨_, ⟨⟩, -⟩ | ⟨id, limit, hlimit, hanswer, hexchanged⟩)
      refine Program.wp_mono (wp_ingest_landed b) ?_
      rintro _ w s₂ ⟨rfl, -, hstill⟩
      have hsent := Tried.sent (c := c) hlimit (hexchanged.still hstill)
      rw [← hanswer] at hsent
      exact hsent
    · rintro e w s₁ (⟨_, ⟨⟩, htried⟩ | ⟨id, limit, hlimit, hanswer, hexchanged⟩)
      · exact htried
      · have hsent := Tried.sent (c := c) hlimit hexchanged
        rw [← hanswer] at hsent
        exact hsent
  refine wp_fetchNext_of (hingest ?_) (hingest ?_)
  · refine Program.wp_mono (wp_fetchBatch_tried hchannel) ?_
    rintro r w s' (⟨e, rfl, rfl, hoverdue⟩ | hsent)
    · refine .inl ⟨e, rfl, .refused (.refl _) fun h => ?_⟩
      exact ⟨(hoverdue h).1, rfl, (hoverdue h).2⟩
    · exact .inr hsent
  · -- the mark of an asynchronous cursor has no part in this
    rw [wp_fetchAlone]
    split
    case isTrue =>
      exact .inl ⟨_, rfl, .refused (.refl s) fun hoverdue => nomatch hoverdue⟩
    case isFalse =>
      let marked := s.changeCursor c.ref (.fetching true)
      have hmarked : marked.cursors c.ref = (s.cursors c.ref).marked true :=
        s.changeCursor_cursors_self c.ref _
      have hmark : s.Still marked := (Scene.Still.refl s).change c.ref _
      refine Program.wp_mono (wp_fetchBatch_tried (s := marked) hchannel) ?_
      rintro r w s' (⟨e, rfl, rfl, hoverdue⟩ | ⟨id, limit, hlimit, hanswer, hexchanged⟩)
      · refine .inl ⟨e, rfl, .refused (hmark.change c.ref _) fun h => ?_⟩
        obtain ⟨hlate, hname⟩ := hoverdue h
        rw [Scene.changeCursor_cursors_self, hmarked]
        rw [hmarked] at hname
        exact ⟨hlate, rfl, hname⟩
      · exact .inr ⟨id, limit, hlimit, hanswer, hmark.exchanged (hexchanged.change c.ref _)⟩

end Fetching

/-! ### Within the budget -/

/-- **How a method stops** that spends a budget: it has kept to it and released nothing. If it has
run out of time, there is something to release. -/
structure Stopped (c : Cursor α) (foreign : Request → Bool) (T : Int) (s : Scene) (e : Failure)
    (s' : Scene) : Prop where
  within : (s'.tally foreign "PUT" : Int) ≤ s.tally foreign "PUT" + T
  kept : s'.tally foreign "DELETE" = s.tally foreign "DELETE"
  due : e.isOverdue = true →
    (s'.cursors c.ref).phase = .live ∧ (s'.cursors c.ref).cursorId.isSome = true

/-- A failure that is not the timeout of a deadline may stop a method anywhere. -/
theorem stopped_of_spends {e : Failure} (h : s.Spends foreign T s') (he : e.isOverdue = false) :
    c.Stopped foreign T s e s' :=
  ⟨h.within, h.kept, fun hoverdue => Bool.noConfusion (he.symm.trans hoverdue)⟩

/-- **A fetch that is granted is paid for** by the time that it takes. -/
theorem supplied_spends (hchannel : c.service.gateway.channel = some c.service.mode)
    (hd : d.Until s.now T) (hpos : 0 < T) (hcap : c.requestLimit.Limits cap) :
    c.Supplied .alone (some d) (fun (_ : ω) s' => s.Spends foreign T s')
      fun e _ s' => c.Stopped foreign T s e s' := by
  intro w s' hspends hneeds
  refine Program.wp_mono (wp_fetchNext_tried hchannel) ?_
  rintro r w s'' (⟨hstill, hoverdue⟩ | ⟨hlimit, hexchanged⟩)
  case refused e =>
    refine ⟨?_, ?_, fun h => ?_⟩
    · rw [hstill.tally]
      exact hspends.within
    · rw [hstill.tally]
      exact hspends.kept
    · obtain ⟨-, hphase, hname⟩ := hoverdue h
      exact ⟨hphase.trans (needsFetch_iff.1 hneeds).2, hname⟩
  case sent id limit =>
    -- nothing is granted once the time is up, so that there is a millisecond left to pay with
    have hnow : s'.now < s.now + T := ((hd.granted hcap (Int.le_of_lt hpos) hlimit).within hpos).1
    have hput : s''.tally foreign "PUT" ≤ s'.tally foreign "PUT" + 1 := hexchanged.tally_le "PUT"
    have hpaid := hspends.paid
    have hwithin : (s''.tally foreign "PUT" : Int) ≤ s.tally foreign "PUT" + T := by omega
    have hkept : s''.tally foreign "DELETE" = s.tally foreign "DELETE" :=
      (hexchanged.tally_eq (show "PUT" ≠ "DELETE" by decide)).trans hspends.kept
    cases hanswer : c.answer id limit (s'.send (c.request "PUT" id limit none)).1 with
    | error e =>
      exact ⟨hwithin, hkept, fun hoverdue =>
        Bool.noConfusion ((answer_not_overdue hanswer).symm.trans hoverdue)⟩
    | ok b =>
      -- once the script is over nothing comes back
      have hscript : s'.script ≠ [] := by
        intro hover
        unfold Scene.send at hanswer
        rw [hover] at hanswer
        cases hanswer
      have helapsed := hspends.slow.elapsed (q := c.request "PUT" id limit none) hscript
      have hlater := hexchanged.now
      have hafter : s.Spends foreign T s'' :=
        ⟨hspends.slow.exchanged hexchanged, by omega, hwithin, hkept⟩
      show Program.Ends _ _ b.warned w s''
      obtain ⟨-, hwarned⟩ | ⟨-, hwarned⟩ := b.warned_eq
      · rw [hwarned]
        exact hafter
      · rw [hwarned]
        exact stopped_of_spends hafter rfl

theorem stays_spends_handOut (hpace : ∀ s, 0 ≤ pace s) (number : Nat) :
    ((c.handOut number).paced pace).Stays .alone (fun (_ : ω) s' => s.Spends foreign T s')
      fun e _ s' => c.Stopped foreign T s e s' := by
  intro w s' hspends
  rw [wp_paced_handOut]
  split
  case h_1 => exact hspends.handOut (hpace s') c.ref number
  case h_2 hconvert => exact stopped_of_spends hspends (Mapper.convert_not_overdue hconvert)

theorem stays_spends_bystander {p : Program β} (hp : p.Bystands foreign) :
    p.Stays .alone (fun (_ : ω) s' => s.Spends foreign T s')
      fun e _ s' => c.Stopped foreign T s e s' := by
  intro w s' hspends
  have hafter := hspends.bystand hp
  rw [Program.wp_alone]
  cases hr : (p.run s').1 with
  | ok b => exact hafter
  | error e => exact stopped_of_spends hafter (hp.overdue s' e hr)

/-! ### The release -/

/-- **Closing a cursor** sends its release, if there is any, and does not fail with the timeout of a
deadline. -/
theorem wp_close_shut (hchannel : c.service.gateway.channel = some c.service.mode) :
    c.close.wp .alone (fun r _ s' => (∀ e, r = .error e → e.isOverdue = false) ∧
      s'.cursors c.ref = (s.cursors c.ref).close ∧
      s'.sent = s.sent ++ (s.cursors c.ref).toRelease.toList.map fun id =>
        c.request "DELETE" id c.plainLimit none) w s := by
  unfold close
  rw [wp_look, wp_update]
  split
  case h_1 hrelease =>
    rw [hrelease]
    refine ⟨fun e he => (nomatch he), s.changeCursor_cursors_self c.ref _, ?_⟩
    exact (Scene.changeCursor_sent _ _ _).trans (List.append_nil _).symm
  case h_2 id hrelease =>
    rw [hrelease]
    refine Program.wp_mono (QueryService.wp_release_answer hchannel) ?_
    rintro r w s' ⟨hfails, hbehind⟩
    refine ⟨fun e he => Gateway.reading_not_overdue (hfails e he), ?_, ?_⟩
    · exact (congrFun hbehind.cursors c.ref).trans (s.changeCursor_cursors_self c.ref _)
    · rw [hbehind.exchanged.sent, Scene.changeCursor_sent]
      rfl

/-- Behind a failure a cursor is closed in the same way. -/
theorem wp_closeAfterFailure_shut (hchannel : c.service.gateway.channel = some c.service.mode) :
    c.closeAfterFailure.wp .alone (fun r _ s' => (∀ e, r = .error e → e.isOverdue = false) ∧
      s'.cursors c.ref = (s.cursors c.ref).close ∧
      s'.sent = s.sent ++ (s.cursors c.ref).toRelease.toList.map fun id =>
        c.request "DELETE" id c.plainLimit none) w s := by
  unfold closeAfterFailure
  rw [Program.wp_attempt_bind]
  refine Program.wp_mono (wp_close_shut hchannel) ?_
  rintro r w s' ⟨hfails, hend⟩
  cases r with
  | ok _ => exact ⟨fun e he => (nomatch he), hend⟩
  | error e =>
    show (if e.isClientError = true then _ else _ : Program Unit).wp _ _ _ _
    split
    · exact ⟨fun e he => (nomatch he), hend⟩
    · refine ⟨?_, hend⟩
      rintro _ ⟨⟩
      exact hfails e rfl

/-- **How a method ends that reads a cursor within a budget:** it has not made more fetches than the
budget allows. If it has run out of time the cursor is closed, and the last request is its release,
the first one since the method was started. -/
structure WithinBudget (c : Cursor α) (foreign : Request → Bool) (T : Int) (s : Scene)
    (r : Except Failure β) (s' : Scene) : Prop where
  fetches : (s'.tally foreign "PUT" : Int) ≤ s.tally foreign "PUT" + T
  overdue : ∀ e, r = .error e → e.isOverdue = true → (s'.cursors c.ref).phase = .closed ∧
    ∃ id before, s'.sent = before ++ [c.request "DELETE" id c.plainLimit none] ∧
      before.countP (Request.counts foreign "DELETE") = s.tally foreign "DELETE"

/-- **A method keeps within a budget** when it is carried out on its own. -/
def KeepsWithin (c : Cursor α) (foreign : Request → Bool) (T : Int) (p : Program β) (s : Scene) :
    Prop :=
  c.WithinBudget foreign T s (p.run s).1 (p.run s).2

/-- The release of a cursor is no fetch. -/
theorem tally_released {release : Option String} (hsent : s'.sent = s.sent ++
    release.toList.map fun id => c.request "DELETE" id c.plainLimit none) :
    s'.tally foreign "PUT" = s.tally foreign "PUT" := by
  unfold Scene.tally
  rw [hsent, List.countP_append]
  cases release <;> rfl

/-- **A cursor that is read within a budget** is closed behind that. -/
theorem wp_closing_within (hchannel : c.service.gateway.channel = some c.service.mode)
    {body : Program β} (hbody : body.wp .alone (Program.Ends (fun _ s' => s.Spends foreign T s')
      fun e _ s' => c.Stopped foreign T s e s') w s₁) :
    (c.closing body).wp .alone (fun r _ s' => c.WithinBudget foreign T s r s') w s₁ := by
  unfold closing
  rw [Program.wp_attempt_bind]
  refine Program.wp_mono hbody fun r w s₂ hend => ?_
  cases r with
  | ok b =>
    have hspends : s.Spends foreign T s₂ := hend
    refine Program.wp_seq (wp_close_shut hchannel) ?_ ?_
    · rintro _ w s₃ ⟨-, -, hsent⟩
      exact ⟨(tally_released hsent).symm ▸ hspends.within, fun e he => nomatch he⟩
    · rintro e w s₃ ⟨hfails, -, hsent⟩
      refine ⟨(tally_released hsent).symm ▸ hspends.within, ?_⟩
      rintro _ ⟨⟩ hoverdue
      exact Bool.noConfusion ((hfails e rfl).symm.trans hoverdue)
  | error e =>
    have hstopped : c.Stopped foreign T s e s₂ := hend
    refine Program.wp_seq (wp_closeAfterFailure_shut hchannel) ?_ ?_
    · rintro _ w s₃ ⟨-, hstate, hsent⟩
      refine ⟨(tally_released hsent).symm ▸ hstopped.within, ?_⟩
      rintro _ ⟨⟩ hoverdue
      -- the time was up where another batch was needed, so that the server still holds the cursor
      obtain ⟨hlive, hname⟩ := hstopped.due hoverdue
      obtain ⟨id, hid⟩ := Option.isSome_iff_exists.1 hname
      rw [CursorState.toRelease_eq_some_iff.2 ⟨hlive, hid⟩] at hsent
      exact ⟨by rw [hstate]; rfl, id, s₂.sent, hsent, hstopped.kept⟩
    · rintro e' w s₃ ⟨hfails, -, hsent⟩
      refine ⟨(tally_released hsent).symm ▸ hstopped.within, ?_⟩
      rintro _ ⟨⟩ hoverdue
      exact Bool.noConfusion ((hfails e' rfl).symm.trans hoverdue)

/-! ### Methods -/

section Methods

variable (hchannel : c.service.gateway.channel = some c.service.mode)
  (hcap : c.requestLimit.Limits cap) (hpos : 0 < T) (hpace : ∀ s, 0 ≤ pace s) (hslow : s.Slow)

include hchannel hpos hslow

/-- A method that begins with its deadline has its budget from there. -/
theorem wp_underDeadline_within {limit : Value} (hlimit : limit.Limits T)
    {body : Deadline → Program β}
    (hbody : ∀ d, d.Until s.now T → (body d).Stays .alone
      (fun (_ : Unit) s' => s.Spends foreign T s') fun e _ s' => c.Stopped foreign T s e s') :
    (c.underDeadline limit fun d => c.closing (body d)).wp .alone
      (fun r _ s' => c.WithinBudget foreign T s r s') () s := by
  have hspends : s.Spends foreign T s := .refl hslow (Int.le_of_lt hpos)
  unfold underDeadline
  rw [Program.wp_bind, wp_deadline]
  split
  case isTrue =>
    -- a closed cursor is refused before anything is sent
    refine ⟨hspends.within, ?_⟩
    rintro _ ⟨⟩ hoverdue
    cases hoverdue
  case isFalse =>
    obtain ⟨d, hd⟩ := Deadline.starting_ok hlimit s.now (some generalTimeoutLabel)
    rw [hd, Program.chain_ok]
    exact wp_closing_within hchannel (hbody d (Deadline.until_starting hlimit hd) hspends)

include hcap hpace

/-- **Reading all that is left** keeps to the budget. -/
theorem keepsWithin_toList {general timeout : Option Int}
    (hlimit : (c.overall general timeout).Limits T) :
    c.KeepsWithin foreign T ((c.toList general timeout).paced pace) s := by
  rw [toList, paced_toListWithin]
  refine (Program.wp_alone _).1 (wp_underDeadline_within hchannel hpos hslow hlimit fun d hd => ?_)
  refine (supplied_spends hchannel hd hpos hcap).remainderBy ?_
  exact empties_paced_drain fun number => stays_spends_handOut hpace number

/-- **Calling a function on each item that is left** keeps to the budget, if the function is a
bystander. -/
theorem keepsWithin_forEach {general timeout : Option Int}
    (hlimit : (c.overall general timeout).Limits T) {visit : α → Program Bool}
    (hvisit : ∀ a, ((visit a).paced pace).Bystands foreign) :
    c.KeepsWithin foreign T ((c.forEach visit general timeout).paced pace) s := by
  rw [paced_forEach]
  refine (Program.wp_alone _).1 (wp_underDeadline_within hchannel hpos hslow hlimit fun d hd => ?_)
  refine stays_visitAll ((supplied_spends hchannel hd hpos hcap).pullBy ?_) ?_
  · exact stays_paced_pop fun number => stays_spends_handOut hpace number
  · exact fun a => stays_spends_bystander (hvisit a)

end Methods

end Cursor

end AqlClient
