import AqlClient.Proofs.Cursor.Budget
import AqlClient.Proofs.Cursor.Serving
import AqlClient.Proofs.Timeliness

/-!
# Servers that never finish

A server that answers each fetch with the announcement of more (`Mapper.GoesOn`) keeps a cursor live
(`Cursor.Unending`), whether there are items in its batches or not. So a method that reads all that
is left does not end by itself: each round of its loop makes a fetch, and there is an outcome for as
many fetches as can be paid for before the deadline passes. It ends when it has passed, with the
timeout.
-/

namespace AqlClient

variable {α β ω : Type} {c : Cursor α} {s s' : Scene} {w : ω} {T cap started ends : Int}
  {d : Deadline}
  {pace : Scene → Int}

open Program (Ends)

/-- **An outcome goes on:** it brings a batch that announces more, the warnings of which can be gone
through, and the items of which are accepted. -/
def Mapper.GoesOn (mapper : Mapper α) (o : Outcome) : Prop :=
  ∃ b, o.Brings b ∧ b.hasMore = true ∧ b.Legible ∧ mapper.Accepts b.results

namespace Cursor

/-- **A cursor of a server that does not finish** before some time: it is live, and for each
millisecond until then there is an outcome that goes on. -/
structure Unending (c : Cursor α) (ends : Int) (s : Scene) : Prop where
  prepared : (s.cursors c.ref).Prepared
  live : (s.cursors c.ref).phase = .live
  accepts : c.mapper.Accepts (s.cursors c.ref).buffer
  slow : s.Slow
  lasting : ∃ more rest, s.script = more ++ rest ∧ (∀ o ∈ more, c.mapper.GoesOn o) ∧
    ends ≤ s.now + more.length

/-- What a fetch makes of an outcome that brings a batch. -/
theorem answer_of_brings {o : Outcome} {b : Batch} (h : o.Brings b) (id : String)
    (limit : TimeLimit) : c.answer id limit o = .ok b := by
  obtain ⟨status, headers, body, envelope, hplayback, hread, hbatch⟩ := h.response
  unfold answer
  rw [hplayback]
  show (Envelope.read (Response.ofParts status headers body) _).bind Batch.ofEnvelope = _
  rw [hread]
  exact hbatch

/-- A live cursor stays live behind a batch that announces more. -/
theorem live_landed {state : CursorState} {b : Batch} (hlive : state.phase = .live)
    (hlegible : b.Legible) (hmore : b.hasMore = true) : (state.landed b).phase = .live := by
  have hopen : (state.received b).phase ≠ .closed := CursorState.ne_closed_of_live hlive
  rw [CursorState.landed_of_legible hlegible, CursorState.settled_of_open hopen, hmore]
  rfl

namespace Unending

section Fetching

variable (hchannel : c.service.gateway.channel = some c.service.mode) (hd : d.Until started T)
  (hpos : 0 < T) (hcap : c.requestLimit.Limits cap)

include hchannel hd hpos hcap

/-- **A fetch keeps the cursor going,** or the deadline has passed. -/
theorem wp_fetchNext (h : c.Unending (started + T) s) (hbuffer : (s.cursors c.ref).buffer = []) :
    (c.fetchNext (some d)).wp .alone (Ends (fun _ s' => c.Unending (started + T) s' ∧
      s'.script.length < s.script.length) fun e _ _ => e = d.overdue) w s := by
  obtain ⟨more, rest, hscript, hgoes, hlasting⟩ := h.lasting
  have hname := h.prepared.named h.live
  obtain ⟨id, hid⟩ := Option.isSome_iff_exists.1 hname
  obtain ⟨limit, hlimit, hgranted⟩ | ⟨-, hlate⟩ :=
    hd.remaining_cases s.now hcap (Int.le_of_lt hpos) (some requestTimeoutLabel)
  case inr =>
    -- the time is up, so that nothing is sent
    have hdue : c.Due s := ⟨needsFetch_iff.2 ⟨hbuffer, h.live⟩, h.prepared.idle, hname⟩
    refine Program.wp_mono (wp_fetchNext_late hdue hlate) ?_
    rintro _ _ _ rfl
    rfl
  -- what is left of the time is enough for an outcome
  have hnow : s.now < started + T := (hgranted.within hpos).1
  cases more with
  | nil =>
    rw [List.length_nil] at hlasting
    omega
  | cons o more =>
    obtain ⟨b, hbrings, hmore, hlegible, haccepts⟩ := hgoes o List.mem_cons_self
    have hsend : (s.send (c.request "PUT" id limit none)).1 = o := by
      show s.script.headD _ = o
      rw [hscript]
      rfl
    refine Program.wp_mono (wp_fetchNext_answer hchannel hlimit h.prepared hid) ?_
    rintro r w s' ⟨hfetched, hexchanged⟩
    unfold fetched at hfetched
    rw [hsend, answer_of_brings hbrings] at hfetched
    have hr : r = .ok () := (congrArg Prod.fst hfetched).trans hlegible.warned
    have hstate : s'.cursors c.ref = (s.cursors c.ref).landed b := congrArg Prod.snd hfetched
    -- the time that the exchange takes makes up for the outcome that it uses up
    have helapsed : 1 ≤ o.elapsed := h.slow o (hscript ▸ List.mem_cons_self)
    have hlater := hexchanged.now
    rw [hsend] at hlater
    rw [hr]
    refine ⟨⟨?_, ?_, ?_, h.slow.exchanged hexchanged, more, rest, ?_, ?_, ?_⟩, ?_⟩
    · rw [hstate]
      exact h.prepared.landed h.live
    · rw [hstate]
      exact live_landed h.live hlegible hmore
    · rw [hstate, CursorState.landed_of_legible hlegible]
      show c.mapper.Accepts ((s.cursors c.ref).buffer ++ b.results)
      rw [hbuffer]
      exact haccepts
    · rw [hexchanged.script, hscript]
      rfl
    · exact fun o ho => hgoes o (List.mem_cons_of_mem _ ho)
    · rw [List.length_cons] at hlasting
      omega
    · rw [hexchanged.script, hscript]
      exact Nat.lt_succ_self _

end Fetching

/-- **Items are handed out,** and nothing else changes but the time. -/
theorem take (h : c.Unending ends s) {ms : Int} (hms : 0 ≤ ms) (number : Nat) :
    c.Unending ends ((s.elapse ms).changeCursor c.ref (.taken number)) := by
  have hstate : ((s.elapse ms).changeCursor c.ref (.taken number)).cursors c.ref =
      (s.cursors c.ref).taken number := (s.elapse ms).changeCursor_cursors_self c.ref _
  obtain ⟨more, rest, hscript, hgoes, hlasting⟩ := h.lasting
  refine ⟨?_, ?_, ?_, h.slow, more, rest, hscript, hgoes, ?_⟩
  · rw [hstate]
    exact h.prepared.taken number
  · rw [hstate]
    exact h.live
  · rw [hstate]
    exact fun item hitem => h.accepts item (List.mem_of_mem_drop hitem)
  · show ends ≤ s.now + ms + _
    omega

theorem wp_handOut (h : c.Unending ends s) (hpace : ∀ s, 0 ≤ pace s) (number : Nat) :
    ((c.handOut number).paced pace).wp .alone (fun r _ s' => ∃ items, r = .ok items ∧
      c.mapper.convert (s.cursors c.ref).consumed ((s.cursors c.ref).buffer.take number) = .ok items ∧
      c.Unending ends s' ∧ s'.script = s.script ∧
      s'.cursors c.ref = (s.cursors c.ref).taken number) w s := by
  obtain ⟨items, hitems⟩ := Mapper.convert_of_accepts (s.cursors c.ref).consumed
    fun item hitem => h.accepts item (List.mem_of_mem_take (i := number) hitem)
  rw [wp_paced_handOut, hitems]
  exact ⟨items, rfl, rfl, h.take (hpace s) number, rfl,
    (s.elapse (pace s)).changeCursor_cursors_self c.ref _⟩

/-- The item in front of the buffer is taken. -/
theorem wp_pop (h : c.Unending ends s) (hpace : ∀ s, 0 ≤ pace s)
    (hbuffer : (s.cursors c.ref).buffer ≠ []) :
    (c.pop?.paced pace).wp .alone (fun r _ s' => ∃ a, r = .ok (some a) ∧ c.Unending ends s' ∧
      s'.script = s.script ∧ (s.cursors c.ref).buffer.length =
        (s'.cursors c.ref).buffer.length + 1) w s := by
  unfold pop?
  rw [Program.paced_bind]
  refine Program.wp_seq (h.wp_handOut hpace 1) ?_ ?_
  · rintro _ w s' ⟨items, ⟨⟩, hitems, hafter, hscript, hstate⟩
    obtain ⟨item, rest, hcons⟩ := List.exists_cons_of_ne_nil hbuffer
    obtain ⟨a, ha⟩ := h.accepts item (hcons ▸ List.mem_cons_self)
    rw [hcons, List.take_succ_cons, List.take_zero, Mapper.convert_cons_ok ha] at hitems
    cases hitems
    refine ⟨a, rfl, hafter, hscript, ?_⟩
    rw [hstate, hcons]
    show rest.length + 1 = ((s.cursors c.ref).buffer.drop 1).length + 1
    rw [hcons]
    rfl
  · rintro e _ _ ⟨_, ⟨⟩, -⟩

end Unending

/-! ### Lists -/

section Reading

variable (hchannel : c.service.gateway.channel = some c.service.mode) (hd : d.Until started T)
  (hpos : 0 < T) (hcap : c.requestLimit.Limits cap) (hpace : ∀ s, 0 ≤ pace s)

include hchannel hd hpos hcap hpace

/-- The rounds of a list do not run out before the time does. -/
theorem Unending.wp_collectBy (h : c.Unending (started + T) s)
    (hbuffer : (s.cursors c.ref).buffer = []) {rounds : Nat} (hrounds : s.script.length < rounds) :
    (c.collectBy (c.drain.paced pace) d rounds).wp .alone
      (Ends (fun _ _ => False) fun e _ _ => e = d.overdue) w s := by
  -- each round uses up an outcome, so that there are always more rounds left than outcomes
  induction rounds generalizing w s with
  | zero => exact absurd hrounds (Nat.not_lt_zero _)
  | succ n ih =>
    unfold collectBy
    rw [wp_look, if_pos h.live]
    refine Program.wp_ends_seq (h.wp_fetchNext hchannel hd hpos hcap hbuffer) fun _ w s₁ h₁ => ?_
    rw [Program.wp_bind, wp_paced_drain]
    refine Program.wp_mono (h₁.1.wp_handOut hpace _) ?_
    rintro _ w s₂ ⟨items, rfl, -, h₂, hscript, hstate⟩
    have hempty : (s₂.cursors c.ref).buffer = [] := by
      rw [hstate]
      exact List.drop_length
    have hleft : s₂.script.length < n := by
      rw [hscript]
      exact Nat.lt_of_lt_of_le h₁.2 (Nat.le_of_lt_succ hrounds)
    exact Program.wp_ends_seq (ih h₂ hempty hleft) fun _ _ _ hnever => hnever.elim

/-- **A list of what is left** does not end before the time is up. -/
theorem Unending.wp_remainderBy (h : c.Unending (started + T) s) :
    (c.remainderBy (c.drain.paced pace) d).wp .alone
      (Ends (fun _ _ => False) fun e _ _ => e = d.overdue) w s := by
  unfold remainderBy
  rw [Program.wp_bind, wp_paced_drain]
  refine Program.wp_mono (h.wp_handOut hpace _) ?_
  rintro _ w s₁ ⟨items, rfl, -, h₁, hscript, hstate⟩
  have hempty : (s₁.cursors c.ref).buffer = [] := by
    rw [hstate]
    exact List.drop_length
  rw [Program.chain_ok, Program.wp_view_bind]
  exact Program.wp_ends_seq (h₁.wp_collectBy hchannel hd hpos hcap hpace hempty
    (Nat.lt_add_of_pos_right (by decide))) fun _ _ _ hnever => hnever.elim

end Reading

/-! ### Visits -/

/-- **A function that goes along:** it says to go on, and leaves the cursor as it is. -/
structure GoesAlong (c : Cursor α) (p : Program Bool) : Prop where
  on : ∀ s, (p.run s).1 = .ok true
  state : ∀ s, (p.run s).2.cursors c.ref = s.cursors c.ref

/-- Whatever a bystander that goes along takes from the script, it takes the time for it. -/
theorem Unending.wp_visit (h : c.Unending ends s) {foreign : Request → Bool} {p : Program Bool}
    (hp : p.Bystands foreign) (halong : c.GoesAlong p) :
    p.wp .alone (fun r _ s' => r = .ok true ∧ c.Unending ends s' ∧
      s'.script.length ≤ s.script.length ∧ s'.cursors c.ref = s.cursors c.ref) w s := by
  have hstate := halong.state s
  obtain ⟨number, hdrop, htime⟩ := hp.time s h.slow
  obtain ⟨more, rest, hscript, hgoes, hlasting⟩ := h.lasting
  -- of the outcomes that go on those are left that have not been taken
  refine (Program.wp_alone p).2 ⟨halong.on s, ⟨?_, ?_, ?_, ?_, more.drop number,
    rest.drop (number - more.length), ?_, ?_, ?_⟩, ?_, hstate⟩
  · rw [hstate]
    exact h.prepared
  · rw [hstate]
    exact h.live
  · rw [hstate]
    exact h.accepts
  · intro o ho
    rw [hdrop] at ho
    exact h.slow o (List.mem_of_mem_drop ho)
  · rw [hdrop, hscript, List.drop_append]
  · exact fun o ho => hgoes o (List.mem_of_mem_drop ho)
  · rw [List.length_drop]
    omega
  · rw [hdrop, List.length_drop]
    exact Nat.sub_le _ _

/-- **What looking for an item comes to:** there is one, and if there was none before, a fetch has
been made for it. -/
structure Replenished (c : Cursor α) (ends : Int) (s s' : Scene) : Prop where
  unending : c.Unending ends s'
  buffer : (s'.cursors c.ref).buffer ≠ []
  fetched : s' = s ∨ s'.script.length < s.script.length

/-- **What a pull comes to** that gives an item: it was in the buffer, or a fetch has been made for
it. -/
structure Drawn (c : Cursor α) (ends : Int) (s s' : Scene) : Prop where
  unending : c.Unending ends s'
  taken : (s.cursors c.ref).buffer.length = (s'.cursors c.ref).buffer.length + 1 ∧
    s'.script = s.script ∨ s'.script.length < s.script.length

section Visiting

variable (hchannel : c.service.gateway.channel = some c.service.mode) (hd : d.Until started T)
  (hpos : 0 < T) (hcap : c.requestLimit.Limits cap)

include hchannel hd hpos hcap

/-- **Looking for an item** does not end without one before the time is up. -/
theorem Unending.wp_fillWithin (h : c.Unending (started + T) s) {rounds : Nat}
    (hrounds : s.script.length < rounds) : (c.fillWithin (some d) rounds).wp .alone
      (Ends (fun _ s' => c.Replenished (started + T) s s') fun e _ _ => e = d.overdue) w s := by
  induction rounds generalizing w s with
  | zero => exact absurd hrounds (Nat.not_lt_zero _)
  | succ n ih =>
    unfold Cursor.fillWithin
    rw [wp_look]
    split
    case isTrue hneeds =>
      have hbuffer := (needsFetch_iff.1 hneeds).1
      refine Program.wp_ends_seq (h.wp_fetchNext hchannel hd hpos hcap hbuffer) fun _ w s₁ h₁ => ?_
      have hleft : s₁.script.length < n := Nat.lt_of_lt_of_le h₁.2 (Nat.le_of_lt_succ hrounds)
      -- the batch may have been without items, so that the loop goes on looking
      refine Program.wp_mono (ih h₁.1 hleft) fun r w s₂ hend => ?_
      cases r with
      | error e => exact hend
      | ok _ =>
        have hfull : c.Replenished (started + T) s₁ s₂ := hend
        refine ⟨hfull.unending, hfull.buffer, .inr ?_⟩
        obtain rfl | hless := hfull.fetched
        · exact h₁.2
        · exact Nat.lt_trans hless h₁.2
    case isFalse hneeds =>
      exact ⟨h, fun hbuffer => hneeds (needsFetch_iff.2 ⟨hbuffer, h.live⟩), .inl rfl⟩

variable (hpace : ∀ s, 0 ≤ pace s)

include hpace

theorem Unending.wp_pullBy (h : c.Unending (started + T) s) :
    (c.pullBy (c.pop?.paced pace) d).wp .alone (fun r _ s' =>
      (∃ a, r = .ok (some a) ∧ c.Drawn (started + T) s s') ∨ r = .error d.overdue) w s := by
  have hfill : (c.fill (some d)).wp .alone
      (Ends (fun _ s' => c.Replenished (started + T) s s') fun e _ _ => e = d.overdue) w s :=
    h.wp_fillWithin hchannel hd hpos hcap (Nat.lt_add_of_pos_right (by decide))
  refine Program.wp_seq hfill ?_ ?_
  · rintro _ w s₁ (hfull : c.Replenished (started + T) s s₁)
    refine Program.wp_mono (hfull.unending.wp_pop hpace hfull.buffer) ?_
    rintro _ w s₂ ⟨a, rfl, h₂, hscript, hlength⟩
    refine .inl ⟨a, rfl, h₂, ?_⟩
    obtain rfl | hless := hfull.fetched
    · exact .inl ⟨hlength, hscript⟩
    · exact .inr (hscript ▸ hless)
  · rintro e w s₁ (he : e = d.overdue)
    exact .inr (congrArg Except.error he)

variable {foreign : Request → Bool} {visit : α → Program Bool}
  (hvisit : ∀ a, (visit a).Bystands foreign) (halong : ∀ a, c.GoesAlong (visit a))

include hvisit halong

/-- **Taking more items than there are in the buffer** makes a fetch. -/
theorem Unending.wp_visitItems (h : c.Unending (started + T) s) (number : Nat) :
    (visitItems (c.pullBy (c.pop?.paced pace) d) visit number).wp .alone (fun r _ s' =>
      (r = .ok true ∧ c.Unending (started + T) s' ∧ s'.script.length ≤ s.script.length ∧
        ((s.cursors c.ref).buffer.length < number → s'.script.length < s.script.length)) ∨
      r = .error d.overdue) w s := by
  -- on the items that are to be taken: one comes out of the buffer, or out of a fetch
  induction number generalizing w s with
  | zero => exact .inl ⟨rfl, h, Nat.le_refl _, fun hnone => absurd hnone (Nat.not_lt_zero _)⟩
  | succ n ih =>
    unfold visitItems
    refine Program.wp_seq (h.wp_pullBy hchannel hd hpos hcap hpace) ?_ ?_
    · rintro _ w s₁ (⟨a, ⟨⟩, hdrawn⟩ | ⟨⟨⟩⟩)
      refine Program.wp_seq (hdrawn.unending.wp_visit (hvisit a) (halong a)) ?_ ?_
      · rintro _ w s₂ ⟨⟨⟩, h₂, hle, hstate⟩
        rw [if_pos rfl]
        refine Program.wp_mono (ih h₂) ?_
        rintro r w s₃ (⟨rfl, h₃, hle', hless'⟩ | hlate)
        · refine .inl ⟨rfl, h₃, ?_, fun hmore => ?_⟩
          · obtain ⟨-, hscript⟩ | hless := hdrawn.taken
            · rw [hscript] at hle
              omega
            · omega
          · obtain ⟨hlength, hscript⟩ | hless := hdrawn.taken
            · rw [hstate] at hless'
              rw [hscript] at hle
              have := hless' (by omega)
              omega
            · omega
        · exact .inr hlate
      · rintro _ _ _ ⟨⟨⟩, -⟩
    · rintro e w s₁ (⟨_, ⟨⟩, -⟩ | ⟨⟨⟩⟩)
      exact .inr rfl

/-- **Visits** do not end before the time is up. -/
theorem Unending.wp_visitAll (h : c.Unending (started + T) s) :
    (c.visitAll (c.pullBy (c.pop?.paced pace) d) visit).wp .alone
      (Ends (fun _ _ => False) fun e _ _ => e = d.overdue) w s := by
  have hrounds : ∀ {rounds : Nat} {w : ω} {s : Scene}, c.Unending (started + T) s →
      s.script.length < rounds →
        (c.visitRounds (c.pullBy (c.pop?.paced pace) d) visit rounds).wp .alone
          (Ends (fun _ _ => False) fun e _ _ => e = d.overdue) w s := by
    intro rounds
    induction rounds with
    | zero => exact fun _ hnone => absurd hnone (Nat.not_lt_zero _)
    | succ n ih =>
      intro w s h hless
      unfold visitRounds
      rw [wp_look]
      -- a round visits one item more than there are in the buffer, so that it makes a fetch
      refine Program.wp_seq
        (h.wp_visitItems hchannel hd hpos hcap hpace hvisit halong _) ?_ ?_
      · rintro _ w s₁ (⟨⟨⟩, h₁, -, hfetched⟩ | ⟨⟨⟩⟩)
        rw [if_pos rfl]
        exact ih h₁ (Nat.lt_of_lt_of_le (hfetched (Nat.lt_succ_self _)) (Nat.le_of_lt_succ hless))
      · rintro e w s₁ (⟨⟨⟩, -⟩ | ⟨⟨⟩⟩)
        rfl
  exact hrounds h (Nat.lt_add_of_pos_right (by decide))

end Visiting

/-! ### Methods -/

/-- **A program runs out of time:** on its own, it ends with the timeout of a deadline, unless the
release behind it has failed in a way that the client does not report. -/
def RunsOut (p : Program β) (s : Scene) : Prop :=
  ∀ fails, s.FailsBy fails →
    ∃ label overall, FailsWith (.timeout (.deadline label overall)) fails (p.run s).1

/-- A method that closes a live cursor behind a program that runs out of time does so itself. -/
theorem runsOut_underDeadline (hchannel : c.service.gateway.channel = some c.service.mode)
    {limit : Value} (hlimit : limit.Limits T) (hlive : (s.cursors c.ref).phase = .live)
    {body : Deadline → Program β} (hbody : ∀ d, d.Until s.now T → (body d).wp .alone
      (Ends (fun _ _ => False) fun e _ _ => e = d.overdue) () s) :
    RunsOut (c.underDeadline limit fun d => c.closing (body d)) s := by
  intro fails hscript
  obtain ⟨d, hstart⟩ := Deadline.starting_ok hlimit s.now (some generalTimeoutLabel)
  have hopen : ¬ (s.cursors c.ref).phase = .closed := CursorState.ne_closed_of_live hlive
  have hdeadline : (c.deadline limit).wp .alone (fun r _ s' => r = .ok d ∧ s' = s) () s := by
    rw [wp_deadline, if_neg hopen]
    exact ⟨hstart, rfl⟩
  have hrun : (c.deadline limit).run s = (.ok d, s) :=
    Prod.ext ((Program.wp_alone _).1 hdeadline).1 ((Program.wp_alone _).1 hdeadline).2
  have hend := (Program.wp_alone _).1 (hbody d (Deadline.until_starting hlimit hstart))
  -- the body does not end well
  have hfails : ((body d).run s).1 = .error d.overdue := by
    cases hr : ((body d).run s).1 with
    | ok b =>
      rw [hr] at hend
      exact hend.elim
    | error e =>
      rw [hr] at hend
      exact congrArg Except.error hend
  refine ⟨d.label, d.overall.getD .null, ?_⟩
  unfold underDeadline
  rw [Program.run_bind, hrun]
  exact closing_failsWith hchannel hscript hfails

end Cursor

/-- **Reading a cursor to its end comes to an end,** whatever the server does: no more fetches are
made than there are milliseconds before the deadline, if each exchange takes one. Where the time is
up the cursor is closed and released, and against a server that never finishes it comes to that. -/
theorem Cursor.draining_ends (hchannel : c.service.gateway.channel = some c.service.mode)
    {general timeout : Option Int} (hlimit : (c.overall general timeout).Limits T)
    (hcap : c.requestLimit.Limits cap) (hpos : 0 < T) (hpace : ∀ s, 0 ≤ pace s) (hslow : s.Slow)
    (foreign : Request → Bool) :
    (c.KeepsWithin foreign T ((c.toList general timeout).paced pace) s ∧
      (c.Unending (s.now + T) s → RunsOut ((c.toList general timeout).paced pace) s)) ∧
    ∀ visit : α → Program Bool, (∀ a, ((visit a).paced pace).Bystands foreign) →
      c.KeepsWithin foreign T ((c.forEach visit general timeout).paced pace) s ∧
      ((∀ a, c.GoesAlong ((visit a).paced pace)) → c.Unending (s.now + T) s →
        RunsOut ((c.forEach visit general timeout).paced pace) s) := by
  refine ⟨⟨keepsWithin_toList hchannel hcap hpos hpace hslow hlimit, fun h => ?_⟩,
    fun visit hvisit => ⟨keepsWithin_forEach hchannel hcap hpos hpace hslow hlimit hvisit,
      fun halong h => ?_⟩⟩
  · rw [toList, paced_toListWithin]
    exact runsOut_underDeadline hchannel hlimit h.live fun d hd =>
      h.wp_remainderBy hchannel hd hpos hcap hpace
  · rw [paced_forEach]
    exact runsOut_underDeadline hchannel hlimit h.live fun d hd =>
      h.wp_visitAll hchannel hd hpos hcap hpace hvisit halong

/-- The scene in which a server sends two more batches, the second one without items, and takes a
millisecond for each. -/
def Scene.endless : Scene :=
  Scene.start 0 [{ Outcome.page with elapsed := 1 }, { Outcome.specimen with elapsed := 1 }]

/-- A function that does nothing stands by and goes along. -/
theorem Program.bystands_pure (b : β) (foreign : Request → Bool) :
    (pure b : Program β).Bystands foreign :=
  ⟨fun _ _ => rfl, fun _ _ => ⟨0, rfl, Int.le_of_eq (Int.add_zero _)⟩, fun _ _ he => nomatch he⟩

/-- The outcomes of that server go on. -/
theorem Scene.endless_goesOn : ∀ o ∈ Scene.endless.script, Mapper.raw.GoesOn o := by
  have hplain : ∀ o ∈ Scene.endless.script, (o.batch?.any fun b => b.isPlain true) = true := by
    decide +kernel
  intro o ho
  obtain ⟨b, hbrings, hb⟩ := (Option.any_eq_true _ _).1 (hplain o ho)
  rw [Batch.isPlain, Bool.and_eq_true, beq_iff_eq, Option.isNone_iff_eq_none] at hb
  refine ⟨b, hbrings, hb.1, fun extra hextra => ?_, fun item _ => ⟨item, rfl⟩⟩
  rw [hb.2] at hextra
  cases hextra

/-- A cursor over three items is read for two milliseconds. -/
theorem Cursor.draining_ends_specimen : ∃ (c : Cursor Value) (s₁ : Scene),
    (opened (Database.specimen .async).service Mapper.raw .null .null Batch.specimen).run
      Scene.endless = (.ok c, s₁) ∧
    c.Unending (s₁.now + 2) s₁ ∧
    (c.KeepsWithin (fun _ => false) 2 ((c.toList none (some 2)).paced fun _ => 0) s₁ ∧
      RunsOut ((c.toList none (some 2)).paced fun _ => 0) s₁) ∧
    (c.KeepsWithin (fun _ => false) 2
      ((c.forEach (fun _ => pure true) none (some 2)).paced fun _ => 0) s₁ ∧
        RunsOut ((c.forEach (fun _ => pure true) none (some 2)).paced fun _ => 0) s₁) := by
  let c : Cursor Value := ⟨0, (Database.specimen .async).service, Mapper.raw, .null, .null⟩
  let s₁ : Scene := ((opened (Database.specimen .async).service Mapper.raw .null .null
    Batch.specimen).run Scene.endless).2
  have hslow : s₁.Slow := by
    intro o ho
    rcases List.mem_cons.1 ho with rfl | ho
    · exact Int.le_refl 1
    · cases List.mem_singleton.1 ho
      exact Int.le_refl 1
  have h : c.Unending (s₁.now + 2) s₁ :=
    ⟨⟨rfl, fun _ => rfl⟩, rfl, fun item _ => ⟨item, rfl⟩, hslow, Scene.endless.script, [], rfl,
      Scene.endless_goesOn, Int.le_refl _⟩
  have hlimit : (c.overall none (some 2)).Limits 2 := .int (by decide)
  have hpace : ∀ s : Scene, 0 ≤ (fun _ : Scene => (0 : Int)) s := fun _ => Int.le_refl 0
  have hends := draining_ends (c := c) rfl hlimit .null (by decide) hpace hslow fun _ => false
  have hvisits := hends.2 (fun _ => pure true) fun _ => Program.bystands_pure true _
  exact ⟨c, s₁, rfl, h, ⟨hends.1.1, hends.1.2 h⟩, hvisits.1,
    hvisits.2 (fun _ => ⟨fun _ => rfl, fun _ => rfl⟩) h⟩

end AqlClient
