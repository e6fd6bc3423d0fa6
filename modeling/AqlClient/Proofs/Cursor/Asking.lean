import AqlClient.Proofs.Cursor.Fetching
import AqlClient.Proofs.Cursor.Serving

/-!
# Calls and their fetches

A call on a cursor that needs no fetch depends on the state of the cursor alone
(`Cursor.Immediate`). One that needs a fetch fails where the fetch does, and otherwise goes on from
the scene behind it (`Cursor.Asking`): in the midst of the loop that skips empty batches a call is
the same call again, begun where the loop stands.

A fetch that is needed comes to what the script has for it (`Cursor.Fetch`). Where that is an
interruption, the cursor is left as it is.
-/

namespace AqlClient

variable {α β γ : Type}

/-! ### Interruptions -/

/-- The failures of an exchange that a caller tries again after. -/
def Except.Interrupted (r : Except Failure β) : Prop := ∃ e, r = .error e ∧ e.isTransport = true

/-- An outcome is an interruption: whatever is sent, the transport fails. -/
def Outcome.Interrupts (o : Outcome) : Prop := ∀ q, Except.Interrupted (o.playback.reply q)

theorem not_interrupted_ok (b : β) : ¬ Except.Interrupted (.ok b : Except Failure β) := by
  rintro ⟨_, ⟨⟩, -⟩

/-- An item that is not accepted is no failure of the transport. -/
theorem Mapper.not_interrupted_convert (mapper : Mapper α) (offset : Int) (raw : List Value) :
    ¬ Except.Interrupted (mapper.convert offset raw) := by
  rintro ⟨e, he, htransport⟩
  obtain ⟨index, item, fault, rfl⟩ := fault_of_convert he
  cases fault with
  | rejected reason => cases htransport
  | aborted reason => cases htransport

namespace Cursor

/-! ### Calls that need no fetch -/

/-- A call comes to a result and leaves a state behind, whatever else there is to the scene, and it
sends nothing. -/
def Comes (c : Cursor α) (p : Program β) (state : CursorState) (r : Except Failure β)
    (state' : CursorState) : Prop :=
  ∀ s : Scene, s.cursors c.ref = state → p.wp .alone (fun r' (_ : Unit) s' =>
    r' = r ∧ s'.cursors c.ref = state' ∧ s.Still s') () s

/-- **A call depends on the state of the cursor alone.** It does not end with a failure of the
transport, and it leaves a prepared cursor prepared. -/
def Immediate (c : Cursor α) (p : Program β) (state : CursorState) : Prop :=
  ∃ r state', ¬ Except.Interrupted r ∧ (state.Prepared → state'.Prepared) ∧ c.Comes p state r state'

variable {c : Cursor α} {state state' : CursorState}

theorem Comes.bind {p : Program β} {f : β → Program γ} {b : β}
    (h : c.Comes p state (.ok b) state') (hkeeps : state.Prepared → state'.Prepared)
    (hf : c.Immediate (f b) state') : c.Immediate (p >>= f) state := by
  obtain ⟨r, state'', hdone, hkeeps', hf⟩ := hf
  refine ⟨r, state'', hdone, fun hprepared => hkeeps' (hkeeps hprepared), fun s hs => ?_⟩
  rw [Program.wp_bind]
  refine Program.wp_mono (h s hs) ?_
  rintro _ _ s₁ ⟨rfl, hs₁, hstill⟩
  refine Program.wp_mono (hf s₁ hs₁) ?_
  rintro r w s₂ ⟨rfl, hs₂, hstill'⟩
  exact ⟨rfl, hs₂, hstill.trans hstill'⟩

theorem immediate_pure (b : β) (state : CursorState) : c.Immediate (pure b) state :=
  ⟨.ok b, state, not_interrupted_ok b, id, fun s hs => ⟨rfl, hs, .refl s⟩⟩

/-- What is made of the value of a call adds nothing to it. -/
theorem Immediate.map {p : Program β} (h : c.Immediate p state) (f : β → γ) :
    c.Immediate (p >>= fun b => pure (f b)) state := by
  obtain ⟨r, state', hdone, hkeeps, hp⟩ := h
  cases r with
  | ok b => exact hp.bind hkeeps (immediate_pure (f b) state')
  | error e =>
    refine ⟨.error e, state', ?_, hkeeps, fun s hs => ?_⟩
    · rintro ⟨_, ⟨⟩, htransport⟩
      exact hdone ⟨e, rfl, htransport⟩
    · rw [Program.wp_bind]
      refine Program.wp_mono (hp s hs) ?_
      rintro _ _ s₁ ⟨rfl, h⟩
      exact ⟨rfl, h⟩

theorem immediate_handOut (number : Nat) (state : CursorState) :
    c.Immediate (c.handOut number) state := by
  have hdone := Mapper.not_interrupted_convert c.mapper state.consumed (state.buffer.take number)
  cases hitems : c.mapper.convert state.consumed (state.buffer.take number) with
  | error e =>
    rw [hitems] at hdone
    refine ⟨.error e, state, hdone, id, fun s hs => ?_⟩
    rw [wp_handOut, hs, hitems]
    exact ⟨rfl, rfl, .refl s⟩
  | ok items =>
    rw [hitems] at hdone
    refine ⟨.ok items, state.taken number, hdone, fun h => h.taken number, fun s hs => ?_⟩
    rw [wp_handOut, hs, hitems]
    refine ⟨rfl, ?_, (Scene.Still.refl s).change c.ref _⟩
    rw [Scene.changeCursor_cursors_self, hs]
    rfl

theorem immediate_look {f : CursorState → Program β} (h : c.Immediate (f state) state) :
    c.Immediate (c.look >>= f) state := by
  obtain ⟨r, state', hdone, hkeeps, hp⟩ := h
  refine ⟨r, state', hdone, hkeeps, fun s hs => ?_⟩
  rw [wp_look, hs]
  exact hp s hs

theorem immediate_drain (state : CursorState) : c.Immediate c.drain state :=
  immediate_look (immediate_handOut state.buffer.length state)

/-- A cursor that is not live is closed without a request. -/
theorem comes_close (hphase : state.phase ≠ .live) : c.Comes c.close state (.ok ()) state.close := by
  have hnone : state.toRelease = none := CursorState.toRelease_of_not_live hphase
  intro s hs
  unfold close
  rw [wp_look, wp_update, hs, hnone]
  refine ⟨rfl, ?_, (Scene.Still.refl s).change c.ref _⟩
  rw [Scene.changeCursor_cursors_self, hs]
  rfl

/-- Where no fetch is needed, none is made. -/
theorem comes_fill (hfull : ¬ state.needsFetch = true) :
    c.Comes (c.fill none) state (.ok ()) state := by
  intro s hs
  unfold fill
  rw [Program.wp_view_bind]
  unfold Scene.horizon fillWithin
  rw [wp_look, hs, if_neg hfull]
  exact ⟨rfl, hs, .refl s⟩

theorem immediate_nextBatch (hfull : ¬ state.needsFetch = true) :
    c.Immediate c.nextBatch state := by
  refine immediate_look ?_
  rw [if_neg hfull]
  exact immediate_drain state

theorem immediate_next (hfull : ¬ state.needsFetch = true) : c.Immediate c.next? state := by
  refine immediate_look ?_
  split
  · exact immediate_pure none state
  · refine (comes_fill hfull).bind id (immediate_look ?_)
    split
    case isTrue hopen hempty =>
      -- the server has no more, so that closing the cursor releases nothing
      have hphase : state.phase ≠ .live := by
        intro hlive
        exact hfull (needsFetch_iff.2 ⟨List.isEmpty_iff.1 hempty, hlive⟩)
      exact (comes_close hphase).bind (fun h => h.close) (immediate_pure none _)
    case isFalse => exact (immediate_handOut 1 state).map List.head?

theorem immediate_hasNext (hfull : ¬ state.needsFetch = true) : c.Immediate c.hasNext state := by
  refine immediate_look ?_
  split
  · exact immediate_pure false state
  · exact (comes_fill hfull).bind id (immediate_look (immediate_pure _ state))

/-! ### Calls that need a fetch -/

/-- **A call that asks for batches:** where it needs one, it fails if the fetch does, and goes on
behind it otherwise. -/
structure Asking (c : Cursor α) (p after : Program β) : Prop where
  immediate : ∀ state, ¬ state.needsFetch = true → c.Immediate p state
  fails : ∀ {s s₁ : Scene} {e : Failure}, (s.cursors c.ref).needsFetch = true →
    (c.fetchNext none).run s = (.error e, s₁) → p.run s = (.error e, s₁)
  follows : ∀ {s s₁ : Scene}, (s.cursors c.ref).needsFetch = true →
    (c.fetchNext none).run s = (.ok (), s₁) → (s₁.cursors c.ref).phase ≠ .closed →
    s₁.script.length + 1 = s.script.length → p.run s = after.run s₁

theorem Asking.map {c : Cursor α} {p after : Program β} (h : c.Asking p after) (f : β → γ) :
    c.Asking (p >>= fun b => pure (f b)) (after >>= fun b => pure (f b)) where
  immediate state hfull := (h.immediate state hfull).map f
  fails hneeds hfetch := by
    rw [Program.run_bind, h.fails hneeds hfetch]
  follows hneeds hfetch hopen hscript := by
    rw [Program.run_bind, Program.run_bind, h.follows hneeds hfetch hopen hscript]

theorem asking_nextBatch : c.Asking c.nextBatch c.drain := by
  -- where a fetch is needed there is nothing else in the buffer
  have hrun : ∀ {s : Scene}, (s.cursors c.ref).needsFetch = true →
      c.nextBatch.run s = (c.fetchNext none >>= fun _ => c.drain).run s := by
    intro s hneeds
    unfold nextBatch
    show (if _ then _ else _ : Program _).run s = _
    rw [if_pos hneeds]
  refine ⟨fun _ hfull => immediate_nextBatch hfull, fun hneeds hfetch => ?_,
    fun hneeds hfetch _ _ => ?_⟩
  · rw [hrun hneeds, Program.run_bind, hfetch]
  · rw [hrun hneeds, Program.run_bind, hfetch]

section Filling

variable {s s₁ : Scene} (hneeds : (s.cursors c.ref).needsFetch = true)

include hneeds

theorem ne_closed_of_needsFetch : (s.cursors c.ref).phase ≠ .closed :=
  CursorState.ne_closed_of_live (needsFetch_iff.1 hneeds).2

/-- The loop that skips empty batches begins with a fetch. -/
theorem run_fill (rounds : Nat) (hscript : s.script.length = rounds) : (c.fill none).run s =
    (c.fetchNext none >>= fun _ => c.fillWithin none (rounds + 1)).run s := by
  show (c.fillWithin none (s.script.length + 2)).run s = _
  rw [hscript]
  unfold fillWithin
  show (if _ then _ else _ : Program Unit).run s = _
  rw [if_pos hneeds]
  rfl

theorem run_fill_error {e : Failure} (hfetch : (c.fetchNext none).run s = (.error e, s₁)) :
    (c.fill none).run s = (.error e, s₁) := by
  rw [run_fill hneeds _ rfl, Program.run_bind, hfetch]

/-- **The loop goes on as it would have begun:** the rounds that it has left are those for what the
script has left. -/
theorem run_fill_ok (hfetch : (c.fetchNext none).run s = (.ok (), s₁))
    (hscript : s₁.script.length + 1 = s.script.length) :
    (c.fill none).run s = (c.fill none).run s₁ := by
  rw [run_fill hneeds _ hscript.symm, Program.run_bind, hfetch]
  rfl

end Filling

theorem asking_next : c.Asking c.next? c.next? := by
  refine ⟨fun _ hfull => immediate_next hfull, ?_, ?_⟩
  · intro s s₁ e hneeds hfetch
    unfold next?
    show (if _ then _ else _ : Program _).run s = _
    rw [if_neg (ne_closed_of_needsFetch hneeds), Program.run_bind, run_fill_error hneeds hfetch]
  · intro s s₁ hneeds hfetch hopen hscript
    unfold next?
    show (if _ then _ else _ : Program _).run s = (if _ then _ else _ : Program _).run s₁
    rw [if_neg (ne_closed_of_needsFetch hneeds), if_neg hopen, Program.run_bind, Program.run_bind,
      run_fill_ok hneeds hfetch hscript]

theorem asking_hasNext : c.Asking c.hasNext c.hasNext := by
  refine ⟨fun _ hfull => immediate_hasNext hfull, ?_, ?_⟩
  · intro s s₁ e hneeds hfetch
    unfold hasNext
    show (if _ then _ else _ : Program _).run s = _
    rw [if_neg (ne_closed_of_needsFetch hneeds), Program.run_bind, run_fill_error hneeds hfetch]
  · intro s s₁ hneeds hfetch hopen hscript
    unfold hasNext
    show (if _ then _ else _ : Program _).run s = (if _ then _ else _ : Program _).run s₁
    rw [if_neg (ne_closed_of_needsFetch hneeds), if_neg hopen, Program.run_bind, Program.run_bind,
      run_fill_ok hneeds hfetch hscript]

/-! ### Fetches that are needed -/

/-- Whatever the script has for a fetch, a prepared cursor is left prepared. -/
theorem prepared_fetched (hprepared : state.Prepared) (hlive : state.phase = .live) (id : String)
    (limit : TimeLimit) (o : Outcome) : (c.fetched id limit o state).2.Prepared := by
  unfold fetched
  split
  · exact hprepared.landed hlive
  · exact hprepared

/-- An interruption leaves the cursor as it is. -/
theorem fetched_of_interrupts {o : Outcome} (ho : o.Interrupts) (id : String) (limit : TimeLimit)
    (state : CursorState) :
    ∃ e, e.isTransport = true ∧ c.fetched id limit o state = (.error e, state) := by
  obtain ⟨e, he, htransport⟩ := ho (c.request "PUT" id limit none)
  refine ⟨e, htransport, ?_⟩
  unfold fetched answer
  rw [he]
  rfl

theorem scriptEnd_interrupts : Outcome.scriptEnd.Interrupts := fun _ => ⟨_, rfl, rfl⟩

/-- A live cursor is not closed by what it gets. -/
theorem fetched_ne_closed (hlive : state.phase = .live) (id : String) (limit : TimeLimit)
    (o : Outcome) : (c.fetched id limit o state).2.phase ≠ .closed := by
  have hopen : state.phase ≠ .closed := CursorState.ne_closed_of_live hlive
  unfold fetched
  split
  · unfold CursorState.landed
    split
    · exact CursorState.settled_ne_closed hopen _
    · exact hopen
  · exact hopen

/-- The request for the next batch, in a state of the cursor. -/
def nextRequest (c : Cursor α) (state : CursorState) : Request :=
  c.request "PUT" (state.cursorId.getD "") c.plainLimit none

/-- What the next fetch comes to, and the state that it leaves behind. -/
def nextFetched (c : Cursor α) (state : CursorState) (o : Outcome) :
    Except Failure Unit × CursorState :=
  c.fetched (state.cursorId.getD "") c.plainLimit o state

/-- **A fetch has been made** where it was needed: what it comes to is a function of the state of
the cursor and of the outcome that the script has for it. -/
structure Fetch (c : Cursor α) (s : Scene) (r : Except Failure Unit) (s₁ : Scene) : Prop where
  exchanged : s.Exchanged (c.nextRequest (s.cursors c.ref)) s₁
  result : (r, s₁.cursors c.ref) =
    c.nextFetched (s.cursors c.ref) (s.script.headD .scriptEnd)
  prepared : (s₁.cursors c.ref).Prepared
  opened : (s₁.cursors c.ref).phase ≠ .closed

section Fetching

variable {s s₁ : Scene} {r₁ : Except Failure Unit}

theorem run_fetchNext (hchannel : c.service.gateway.channel = some c.service.mode)
    (hprepared : (s.cursors c.ref).Prepared) (hneeds : (s.cursors c.ref).needsFetch = true)
    (hrun : (c.fetchNext none).run s = (r₁, s₁)) : c.Fetch s r₁ s₁ := by
  have hlive : (s.cursors c.ref).phase = .live := (needsFetch_iff.1 hneeds).2
  obtain ⟨id, hid⟩ := Option.isSome_iff_exists.1 (hprepared.named hlive)
  have hname : (s.cursors c.ref).cursorId.getD "" = id := by rw [hid]; rfl
  obtain ⟨hresult, hexchanged⟩ := Program.run_of_wp (w := ())
    (wp_fetchNext_answer hchannel rfl hprepared hid) hrun
  have hstate : s₁.cursors c.ref =
      (c.fetched id c.plainLimit (s.script.headD .scriptEnd) (s.cursors c.ref)).2 :=
    congrArg Prod.snd hresult
  refine ⟨?_, ?_, ?_, ?_⟩
  · unfold nextRequest
    rw [hname]
    exact hexchanged
  · unfold nextFetched
    rw [hname]
    exact hresult
  · rw [hstate]
    exact prepared_fetched hprepared hlive _ _ _
  · rw [hstate]
    exact fetched_ne_closed hlive _ _ _

namespace Fetch

/-- An interrupted fetch fails and leaves the cursor as it was. -/
theorem interrupted (h : c.Fetch s r₁ s₁) (ho : (s.script.headD .scriptEnd).Interrupts) :
    s₁.cursors c.ref = s.cursors c.ref ∧ ∃ e, r₁ = .error e ∧ e.isTransport = true := by
  obtain ⟨e, htransport, he⟩ := fetched_of_interrupts (c := c) ho
    ((s.cursors c.ref).cursorId.getD "") c.plainLimit (s.cursors c.ref)
  obtain ⟨hr, hstate⟩ := Prod.mk.inj (h.result.trans he)
  exact ⟨hstate, e, hr, htransport⟩

/-- A fetch that comes to something has used up an outcome. -/
theorem shorter (h : c.Fetch s (.ok ()) s₁) : s₁.script.length + 1 = s.script.length := by
  rw [h.exchanged.script]
  cases hs : s.script with
  | nil =>
    -- behind the end of the script there are only interruptions
    obtain ⟨-, e, he, -⟩ := h.interrupted (by rw [hs]; exact scriptEnd_interrupts)
    cases he
  | cons o more => rfl

end Fetch

end Fetching

end Cursor

end AqlClient
