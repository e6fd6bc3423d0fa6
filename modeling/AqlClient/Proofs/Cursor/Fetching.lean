import AqlClient.Proofs.Cursor.Phases
import AqlClient.Proofs.Cursor.Twins
import AqlClient.Proofs.Program.Answer

/-!
# What a fetch comes to

On its own, a fetch comes to what the outcome says that the script has for it
(`Cursor.wp_fetchNext_answer`). Its result and the state of the cursor behind it are functions of
that outcome and of the state before (`Cursor.fetched`): a fetch that fails before a batch is read
leaves the state as it is, and a batch changes it as `CursorState.landed` says.

For this the cursor has to be *prepared* (`CursorState.Prepared`): no other fetch of it is on its
way, and it has a name if it is live. A cursor on its own always is, whatever a caller has done with
it (`Database.cursor_prepared`).
-/

namespace AqlClient

variable {α β ω : Type} {c : Cursor α}

/-! ### The arrival of a batch -/

/-- **The state behind the arrival of a batch:** it is settled, unless its warnings cannot be gone
through. -/
def CursorState.landed (s : CursorState) (b : Batch) : CursorState :=
  match b.warned with
  | .ok _ => (s.received b).settled b
  | .error _ => s.received b

theorem CursorState.landed_of_legible {b : Batch} (h : b.Legible) (s : CursorState) :
    s.landed b = (s.received b).settled b := by
  unfold landed
  rw [h.warned]

/-! ### Prepared cursors -/

/-- **A cursor that can be asked:** no fetch of it is on its way, and it has a name if it is live.
-/
structure CursorState.Prepared (s : CursorState) : Prop where
  idle : s.fetching = false
  named : s.phase = .live → s.cursorId.isSome = true

namespace CursorState.Prepared

variable {s : CursorState} {b : Batch}

theorem taken (h : s.Prepared) (number : Nat) : (s.taken number).Prepared := ⟨h.idle, h.named⟩

theorem close (h : s.Prepared) : s.close.Prepared := ⟨h.idle, fun hp => nomatch hp⟩

/-- A batch leaves a live cursor prepared, since it has a name from before. -/
theorem landed (h : s.Prepared) (hlive : s.phase = .live) : (s.landed b).Prepared := by
  have hreceived : (s.received b).Prepared := by
    refine ⟨h.idle, fun _ => ?_⟩
    show (b.cursorId.or s.cursorId).isSome = true
    rw [Option.isSome_or, h.named hlive, Bool.or_true]
  have hname : (s.received b).cursorId.isSome = true := hreceived.named hlive
  unfold CursorState.landed
  split
  · exact ⟨h.idle, fun _ => hname⟩
  · exact hreceived

/-- The mark for a fetch is taken back as it was. -/
theorem unmarked (h : s.Prepared) : (s.marked true).marked false = s := by
  show { s with fetching := false } = s
  rw [← h.idle]

end CursorState.Prepared

namespace Cursor

section Fresh

variable {first : Batch} {s : Scene} (hfresh : c.Fresh first s)
  (hnamed : first.hasMore = true → first.cursorId.isSome = true) {p : Program β}
  (hp : c.Client p)

include hfresh hnamed hp

/-- Whatever a caller has done with a cursor on its own, its phase tells the truth, and no fetch of
it is on its way. -/
theorem Fresh.phased : ∃ L : Ledger, (p.run s).2.cursors c.ref = L.state ∧
    L.Phased c.service.mode ∧ L.state.fetching = false := by
  have hquiet := hp.run_quiet (hfresh.quiet c.concerns) (fun _ => trivial) rfl fun _ => rfl
  obtain ⟨L, hL, -, hidle⟩ := hquiet
  obtain ⟨events, -, hlaw, rfl⟩ := hL.events
  exact ⟨_, hL.state, hlaw.phased (Ledger.opened_phased c.service.mode hnamed), hidle⟩

/-- So it is prepared. -/
theorem Fresh.prepared : ((p.run s).2.cursors c.ref).Prepared := by
  obtain ⟨L, hstate, hphased, hidle⟩ := hfresh.phased hnamed hp
  rw [hstate]
  exact ⟨hidle, fun hlive => (hphased.live hlive).1⟩

end Fresh

end Cursor

/-- **The cursor of a query is prepared** on its own, whatever is done with it. -/
theorem Database.cursor_prepared {d : Database} {q : Query} {mapper : Mapper α}
    {request timeout : Option Int} {s s₁ : Scene}
    (hopen : (d.cursor q mapper request timeout).run s = (.ok c, s₁)) {p : Program β}
    (hp : c.Client p) : ((p.run s₁).2.cursors c.ref).Prepared := by
  obtain ⟨-, -, first, hfresh, hnamed⟩ := cursor_named hopen
  exact hfresh.prepared hnamed hp

namespace Cursor

variable {w : ω} {s : Scene}

/-! ### The exchange of a fetch -/

/-- **What a fetch makes of an outcome:** the batch that it brings. -/
def answer (c : Cursor α) (id : String) (limit : TimeLimit) (o : Outcome) : Except Failure Batch :=
  (c.service.gateway.reading (QueryService.cursorCall "PUT" id limit)
    (o.playback.reply (c.request "PUT" id limit none))).bind Batch.ofEnvelope

/-- **What a fetch comes to,** and the state that it leaves behind. -/
def fetched (c : Cursor α) (id : String) (limit : TimeLimit) (o : Outcome) (state : CursorState) :
    Except Failure Unit × CursorState :=
  match c.answer id limit o with
  | .ok b => (b.warned, state.landed b)
  | .error e => (.error e, state)

/-- **A batch arrives.** -/
theorem wp_ingest_landed {D : Discipline ω} (b : Batch) :
    (c.ingest b).wp D (fun r _ s' => r = b.warned ∧
      s'.cursors c.ref = (s.cursors c.ref).landed b ∧ s.Still s') w s := by
  let received := s.changeCursor c.ref (.received b)
  have hreceived : s.Still received := (Scene.Still.refl s).change c.ref _
  have hstate : received.cursors c.ref = (s.cursors c.ref).received b :=
    s.changeCursor_cursors_self c.ref _
  let I : ω → Scene → Prop := fun _ s' => s'.cursors c.ref = received.cursors c.ref ∧ s.Still s'
  have hI : Logless I := fun _ _ _ _ h => ⟨h.1, h.2.script, h.2.now, h.2.journal, h.2.sent⟩
  unfold ingest CursorState.landed
  rw [wp_update]
  refine Program.wp_seq (wp_reportWarnings hI b ⟨rfl, hreceived⟩) ?_ ?_
  · rintro _ _ s' ⟨hwarned, hs', hstill⟩
    rw [← hwarned]
    refine ⟨rfl, ?_, hstill.change c.ref _⟩
    show (s'.changeCursor c.ref _).cursors c.ref = _
    rw [Scene.changeCursor_cursors_self, hs', hstate]
    rfl
  · rintro e _ s' ⟨hwarned, hs', hstill⟩
    rw [← hwarned]
    exact ⟨rfl, hs'.trans hstate, hstill⟩

section Fetching

variable (hchannel : c.service.gateway.channel = some c.service.mode) {deadline : Option Deadline}
  {limit : TimeLimit} {id : String}

include hchannel

/-- The exchange of a fetch comes to what its outcome says, and changes no cursor. -/
theorem wp_fetchBatch_answer (hlimit : c.limitAt deadline s.now = .ok limit)
    (hid : (s.cursors c.ref).cursorId = some id) :
    (c.fetchBatch deadline).wp .alone (fun r _ s' =>
      r = c.answer id limit (s.send (c.request "PUT" id limit none)).1 ∧
        s.Behind (c.request "PUT" id limit none) s') w s := by
  unfold fetchBatch liveId
  rw [Program.wp_bind, wp_look, hid, Program.wp_pure, Program.chain_ok, Program.wp_bind]
  have hgranted : (c.limitUnder deadline).wp .alone
      (fun r (_ : ω) s' => r = .ok limit ∧ s' = s) w s := by
    rw [Program.wp_alone, run_limitUnder]
    exact ⟨hlimit, rfl⟩
  refine Program.wp_mono hgranted ?_
  rintro _ w _ ⟨rfl, rfl⟩
  rw [Program.chain_ok]
  exact Gateway.wp_asked hchannel rfl _ _ _

/-- **A fetch comes to what its outcome says.** -/
theorem wp_fetchNext_answer (hlimit : c.limitAt deadline s.now = .ok limit)
    (hprepared : (s.cursors c.ref).Prepared) (hid : (s.cursors c.ref).cursorId = some id) :
    (c.fetchNext deadline).wp .alone (fun r _ s' =>
      (r, s'.cursors c.ref) = c.fetched id limit (s.send (c.request "PUT" id limit none)).1
          (s.cursors c.ref) ∧
        s.Exchanged (c.request "PUT" id limit none) s') w s := by
  let q := c.request "PUT" id limit none
  let o := (s.send q).1
  -- what comes behind the exchange is the same in both modes
  have hingest : ∀ {fetch : Program Batch}, fetch.wp .alone (fun r _ s' =>
      r = c.answer id limit o ∧ s'.cursors c.ref = s.cursors c.ref ∧ s.Exchanged q s') w s →
      (fetch >>= c.ingest).wp .alone (fun r _ s' =>
        (r, s'.cursors c.ref) = c.fetched id limit o (s.cursors c.ref) ∧ s.Exchanged q s') w s := by
    intro fetch hfetch
    unfold fetched
    refine Program.wp_seq hfetch ?_ ?_
    · rintro b w s₁ ⟨hb, hstate, hexchanged⟩
      refine Program.wp_mono (wp_ingest_landed b) ?_
      rintro r w s₂ ⟨rfl, hlanded, hstill⟩
      rw [← hb, hlanded, hstate]
      exact ⟨rfl, hexchanged.still hstill⟩
    · rintro e w s₁ ⟨he, hstate, hexchanged⟩
      rw [← he, hstate]
      exact ⟨rfl, hexchanged⟩
  refine wp_fetchNext_of (hingest ?_) (hingest ?_)
  · refine Program.wp_mono (wp_fetchBatch_answer hchannel hlimit hid) ?_
    rintro r w s' ⟨hr, hbehind⟩
    exact ⟨hr, congrFun hbehind.cursors c.ref, hbehind.exchanged⟩
  · -- the exchange of an asynchronous cursor is made while it is marked
    have hidle : ¬ (s.cursors c.ref).fetching = true := by
      rw [hprepared.idle]
      exact Bool.false_ne_true
    rw [wp_fetchAlone, if_neg hidle]
    let marked := s.changeCursor c.ref (.fetching true)
    have hmarked : marked.cursors c.ref = (s.cursors c.ref).marked true :=
      s.changeCursor_cursors_self c.ref _
    have hname : (marked.cursors c.ref).cursorId = some id := by
      rw [hmarked]
      exact hid
    refine Program.wp_mono (wp_fetchBatch_answer (s := marked) hchannel hlimit hname) ?_
    rintro r w s' ⟨hr, hbehind⟩
    have hstate : (s'.changeCursor c.ref (.fetching false)).cursors c.ref = s.cursors c.ref := by
      rw [Scene.changeCursor_cursors_self, hbehind.cursors, hmarked]
      exact hprepared.unmarked
    have hmark : s.Still marked := (Scene.Still.refl s).change c.ref _
    exact ⟨hr, hstate, hmark.exchanged (hbehind.exchanged.change c.ref (.fetching false))⟩

end Fetching

end Cursor

end AqlClient
