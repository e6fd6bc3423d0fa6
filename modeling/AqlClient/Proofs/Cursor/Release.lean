import AqlClient.Proofs.Cursor.Phases
import AqlClient.Proofs.Program.Way

/-!
# Releases are sent as they are due

Over the whole life of a blocking cursor that is closed, one release is sent if the latest batch
announced more, and none otherwise (`Cursor.Over`).

A caller may do other things in between that do not touch the cursor, such as reading another query
of the same database (`Cursor.Aloof`). These send requests of their own, which may even read like
those of the cursor, since it is the server that names the cursors. So what is counted are the
requests that the operations of the cursor have sent on the way to a scene (`Scene.Way`). Where the
others keep away from the cursors of the database, all requests are counted (`Cursor.Over.whole`).

The number of releases is an invariant of the operations (`Cursor.Balanced`): it is the number that
is due for the state of the cursor (`CursorState.releasesDue`). Nothing but closing a live cursor
changes either of the two, and it changes both. For this it matters that a release is sent for
certain (`QueryService.wp_release_sent`), that a live cursor has been told of more and has a name,
and that an exhausted one has not (`Ledger.Phased`).

A program behind which the cursor is closed leaves it finished, however the program ends
(`Cursor.wp_closing_finished`), if the program itself keeps the accounts of the cursor in order. All
that a caller can do with the cursor does (`Cursor.Uses.accounted`).
-/

namespace AqlClient

variable {α β : Type} {c : Cursor α}

/-- The number of releases that are due over the whole life of a cursor in a state. -/
def CursorState.releasesDue (s : CursorState) : Nat :=
  if s.phase = .closed ∧ s.hasMore = true then 1 else 0

theorem CursorState.releasesDue_of_ne {s : CursorState} (h : s.phase ≠ .closed) :
    s.releasesDue = 0 :=
  if_neg fun hboth => h hboth.1

/-- Where there is nothing to release, no more is due once the cursor is closed. -/
theorem Ledger.Phased.releasesDue_close {L : Ledger} {mode : Mode} (hL : L.Phased mode)
    (h : L.state.toRelease = none) : L.state.close.releasesDue = L.state.releasesDue := by
  cases hp : L.state.phase with
  | live =>
    have hid := (hL.live hp).1
    rw [← CursorState.toRelease_of_live hp, h] at hid
    cases hid
  | exhausted =>
    have hmore := hL.exhausted hp
    simp [CursorState.releasesDue, CursorState.close, hp, hmore]
  | closed => simp [CursorState.releasesDue, CursorState.close, hp]

namespace Cursor

/-! ### Counting releases -/

/-- Whether a request releases a cursor of the database. -/
def isRelease (c : Cursor α) (q : Request) : Bool := c.concerns q && q.method == "DELETE"

/-- The number of releases among some requests. -/
def releases (c : Cursor α) (requests : List Request) : Nat := requests.countP c.isRelease

theorem releases_append (requests more : List Request) :
    c.releases (requests ++ more) = c.releases requests + c.releases more :=
  List.countP_append

/-- The operations of a cursor have sent a number of releases on the way to a scene. -/
def HasReleased (c : Cursor α) (others : (γ : Type) → Program γ → Prop) (s₀ : Scene) (n : Nat)
    (s : Scene) : Prop :=
  ∃ own foreign, s₀.Way others own foreign s ∧ c.releases own = n

variable {others : (γ : Type) → Program γ → Prop} {s₀ s s' : Scene} {n : Nat}

theorem HasReleased.act (h : c.HasReleased others s₀ n s) (change : Change) :
    c.HasReleased others s₀ n (s.enact change) := by
  obtain ⟨own, foreign, hway, hcount⟩ := h
  exact ⟨own, foreign, hway.act change, hcount⟩

/-- One more request is counted if it is a release. -/
theorem HasReleased.exchange (h : c.HasReleased others s₀ n s) (q : Request) :
    c.HasReleased others s₀ (n + c.releases [q]) ((s.send q).2.elapse (s.send q).1.elapsed) := by
  obtain ⟨own, foreign, hway, rfl⟩ := h
  exact ⟨own ++ [q], foreign, hway.exchange q, releases_append own [q]⟩

/-- A fetch is not counted. -/
theorem HasReleased.fetch (h : c.HasReleased others s₀ n s) (id : String) (limit : TimeLimit)
    (body : Option String) :
    c.HasReleased others s₀ n ((s.send (c.request "PUT" id limit body)).2.elapse
      (s.send (c.request "PUT" id limit body)).1.elapsed) := by
  have hnone : c.releases [c.request "PUT" id limit body] = 0 := by
    show [c.request "PUT" id limit body].countP _ = 0
    rw [List.countP_singleton, isRelease, c.concerns_request]
    rfl
  have hextended := h.exchange (c.request "PUT" id limit body)
  rwa [hnone] at hextended

/-- A release is counted. -/
theorem HasReleased.release (h : c.HasReleased others s₀ n s) (id : String) (limit : TimeLimit)
    (body : Option String) :
    c.HasReleased others s₀ (n + 1) ((s.send (c.request "DELETE" id limit body)).2.elapse
      (s.send (c.request "DELETE" id limit body)).1.elapsed) := by
  have hone : c.releases [c.request "DELETE" id limit body] = 1 := by
    show [c.request "DELETE" id limit body].countP _ = 1
    rw [List.countP_singleton, isRelease, c.concerns_request]
    rfl
  have hextended := h.exchange (c.request "DELETE" id limit body)
  rwa [hone] at hextended

/-- What others send is not counted. -/
theorem HasReleased.other (h : c.HasReleased others s₀ n s) {p : Program β} (hp : others β p) :
    c.HasReleased others s₀ n (p.run s).2 := by
  obtain ⟨own, foreign, hway, hcount⟩ := h
  obtain ⟨sent, hsent⟩ := (p.before_run s).sent
  exact ⟨own, foreign ++ sent, hway.other hp hsent, hcount⟩

/-! ### The balance of releases -/

/-- **As many releases have been sent as are due.** -/
def Balanced (c : Cursor α) (others : (γ : Type) → Program γ → Prop) (s₀ s : Scene) : Prop :=
  c.HasReleased others s₀ (s.cursors c.ref).releasesDue s

/-- A cursor that is not closed owes no release. -/
theorem balanced_iff_of_ne (h : (s.cursors c.ref).phase ≠ .closed) :
    c.Balanced others s₀ s ↔ c.HasReleased others s₀ 0 s := by
  unfold Balanced
  rw [CursorState.releasesDue_of_ne h]

/-- Handing out items keeps the balance. -/
theorem Balanced.take (h : c.Balanced others s₀ s) (number : Nat) :
    c.Balanced others s₀ (s.changeCursor c.ref (.taken number)) := by
  unfold Balanced
  rw [Scene.changeCursor_cursors_self]
  exact HasReleased.act h (.cursor c.ref (.taken number))

/-- A fetch of a blocking cursor keeps the balance: it leaves the cursor live or exhausted, and
sends no release. -/
theorem wp_fetchNext_balanced (hmode : c.service.mode = .blocking) (deadline : Option Deadline)
    (hlive : (s.cursors c.ref).phase = .live) (h : c.Balanced others s₀ s) :
    (c.fetchNext deadline).wp .alone (fun _ _ s' => c.Balanced others s₀ s') () s := by
  have hopen : ∀ {state : CursorState}, state.phase = .live → state.phase ≠ .closed := by
    intro state hp
    rw [hp]
    exact Phase.noConfusion
  rw [balanced_iff_of_ne (hopen hlive)] at h
  -- the cursor stays live for as long as the batch is on its way
  let I : Unit → Scene → Prop := fun _ s' =>
    (s'.cursors c.ref).phase = .live ∧ c.HasReleased others s₀ 0 s'
  have hI : Logless I := fun _ _ level text h => ⟨h.1, h.2.act (.logged level text)⟩
  have hcarries : ∀ id limit, c.service.gateway.Carries .alone I I
      (QueryService.cursorCall "PUT" id limit) := by
    rintro id limit body w s' ⟨hphase, hreleased⟩
    refine ⟨trivial, fun w' reply s'' hback => ?_⟩
    obtain ⟨-, rfl⟩ := Discipline.alone_back hback
    exact ⟨hphase, hreleased.fetch id limit body⟩
  unfold fetchNext
  rw [hmode]
  refine Program.wp_seq (wp_fetchBatch hI hI deadline hcarries ⟨hlive, h⟩) ?_ ?_
  · intro b w s' hend
    obtain ⟨hphase, hreleased⟩ : I w s' := hend.elim id id
    have hreceived : I w (s'.changeCursor c.ref (.received b)) := by
      refine ⟨?_, hreleased.act (.cursor c.ref (.received b))⟩
      rw [Scene.changeCursor_cursors_self]
      exact hphase
    refine wp_ingest hI b hreceived ?_ ?_
    · rintro w s'' ⟨hphase, hreleased⟩
      -- what the batch says makes the cursor live or exhausted, so that still nothing is due
      have hsettled : ((s''.changeCursor c.ref (.settled b)).cursors c.ref).phase ≠ .closed := by
        rw [Scene.changeCursor_cursors_self]
        exact CursorState.settled_ne_closed (hopen hphase) b
      exact (balanced_iff_of_ne hsettled).2 (hreleased.act (.cursor c.ref (.settled b)))
    · rintro e w s'' ⟨hphase, hreleased⟩ -
      exact (balanced_iff_of_ne (hopen hphase)).2 hreleased
  · intro e w s' hend
    obtain ⟨hphase, hreleased⟩ : I w s' := hend.elim id id
    exact (balanced_iff_of_ne (hopen hphase)).2 hreleased

/-- **Closing a cursor keeps the balance,** and the cursor is closed behind it however it ends. -/
theorem wp_close_balanced (hchannel : c.service.gateway.channel = some c.service.mode)
    {L : Ledger} (hL : L.Phased c.service.mode) (hstate : s.cursors c.ref = L.state)
    (h : c.Balanced others s₀ s) :
    c.close.wp .alone (fun _ _ s' => c.Balanced others s₀ s' ∧ (s'.cursors c.ref).phase = .closed)
      () s := by
  unfold close
  rw [wp_look, wp_update]
  have hclosed : (s.changeCursor c.ref .closed).cursors c.ref = (s.cursors c.ref).close :=
    s.changeCursor_cursors_self c.ref .closed
  unfold Balanced at h ⊢
  rw [hstate] at h hclosed ⊢
  split
  case h_1 hnone =>
    -- nothing is sent, and nothing more is due
    refine ⟨?_, by rw [hclosed]; rfl⟩
    rw [hclosed, hL.releasesDue_close hnone]
    exact h.act (.cursor c.ref .closed)
  case h_2 id hid =>
    -- only a live cursor has something to release: nothing was due before, and now one release is
    have hlive : L.state.phase = .live := (CursorState.toRelease_eq_some_iff.1 hid).1
    have hnow : L.state.releasesDue = 0 := by
      refine CursorState.releasesDue_of_ne ?_
      rw [hlive]
      exact Phase.noConfusion
    have hthen : L.state.close.releasesDue = 1 := if_pos ⟨rfl, (hL.live hlive).2⟩
    rw [hnow] at h
    let I (n : Nat) : Unit → Scene → Prop := fun _ s' =>
      s'.cursors c.ref = L.state.close ∧ c.HasReleased others s₀ n s'
    have hI : ∀ n, Logless (I n) := fun _ _ _ level text h =>
      ⟨h.1, h.2.act (.logged level text)⟩
    have hcarries : c.service.gateway.Carries .alone (I 0) (I 1)
        (QueryService.cursorCall "DELETE" id c.plainLimit) := by
      rintro body w s' ⟨hstate, hreleased⟩
      refine ⟨trivial, fun w' reply s'' hback => ?_⟩
      obtain ⟨-, rfl⟩ := Discipline.alone_back hback
      exact ⟨hstate, hreleased.release id c.plainLimit body⟩
    refine Program.wp_mono (QueryService.wp_release_sent (hI 0) (hI 1) hcarries hchannel
      ⟨hclosed, h.act (.cursor c.ref .closed)⟩) ?_
    rintro r w s' ⟨hstate, hreleased⟩
    rw [hstate, hthen]
    exact ⟨hreleased, rfl⟩

/-! ### The accounts of a cursor -/

/-- **A blocking cursor that can reach the server,** and that was named by its first batch if this
announced more. -/
structure Attached (c : Cursor α) (first : Batch) : Prop where
  blocking : c.service.mode = .blocking
  channel : c.service.gateway.channel = some c.service.mode
  named : first.hasMore = true → first.cursorId.isSome = true

/-- All is in order since the cursor was made: the rules of its watch have been obeyed, and as many
releases have been sent as are due. -/
def Accounted (c : Cursor α) (others : (γ : Type) → Program γ → Prop) (first : Batch) (s₀ : Scene)
    (flag : Bool) (s : Scene) : Prop :=
  (Watch.sinceMaking c (fun _ => false) first s₀.history).Quiet flag s ∧ c.Balanced others s₀ s

/-- All is in order, and the cursor is closed. -/
def Finished (c : Cursor α) (others : (γ : Type) → Program γ → Prop) (first : Batch) (s₀ : Scene)
    (flag : Bool) (s : Scene) : Prop :=
  c.Accounted others first s₀ flag s ∧ (s.cursors c.ref).phase = .closed

variable {first : Batch} {w : Bool}

/-- No release is due for a cursor that has just been made. -/
theorem Fresh.accounted (h : c.Fresh first s) : c.Accounted others first s false s := by
  refine ⟨h.quiet _, ?_⟩
  have hopen : (s.cursors c.ref).phase ≠ .closed := by
    rw [h.state]
    exact Ledger.opened_ne_closed first
  rw [balanced_iff_of_ne hopen]
  exact ⟨[], [], .start, rfl⟩

theorem logless_accounted : Logless (c.Accounted others first s₀) :=
  fun _ _ level text h => ⟨h.1.record level text, HasReleased.act h.2 (.logged level text)⟩

theorem accounted_handOut (number : Nat) :
    (c.handOut number).Upholds .alone (c.Accounted others first s₀) fun _ => True := by
  rintro w s ⟨hquiet, hbalanced⟩
  have hkept := keeps_handOut (D := .alone) (fun _ => trivial) number hquiet
  rw [wp_handOut] at hkept ⊢
  split at hkept
  · exact Program.kept_ok ⟨hkept, hbalanced.take number⟩
  · exact Program.kept_error ⟨hkept, hbalanced⟩ trivial

/-- What does not touch the cursor does not touch its accounts, whatever it sends. -/
theorem Aloof.accounted {p : Program β} (hp : c.Aloof p) (hother : others β p) :
    p.Upholds .alone (c.Accounted others first s₀) fun _ => True := by
  rintro w s ⟨hquiet, hbalanced⟩
  let W : Watch c := Watch.sinceMaking c (fun _ => false) first s₀.history
  -- the cursor stays as it is
  let I : Bool → Scene → Prop := fun w' s' => W.Quiet w' s' ∧ s'.cursors c.ref = s.cursors c.ref
  have hkept : p.wp .alone (Program.Kept I fun _ => True) w s := by
    refine Program.Avoids.upholds hp (I := I) ?_ ?_ ?_ (fun _ => trivial) ⟨hquiet, rfl⟩
    · rintro w s ⟨⟨L, hL, -, -⟩, -⟩
      exact hL.placed
    · rintro w s change hchange ⟨⟨L, hL, hlevel, hw⟩, hsame⟩
      have hbars : ¬ W.Bars change :=
        fun hbars => hchange (Watch.touches_of_bars (fun _ => rfl) hbars)
      exact ⟨⟨L, hL.enact hbars, hlevel, hw⟩,
        (Scene.enact_cursors_of_not_touches hL.placed hchange).trans hsame⟩
    · rintro w s q - ⟨hquiet, hsame⟩
      refine ⟨trivial, fun w' reply s' hback => ?_⟩
      obtain ⟨rfl, rfl⟩ := Discipline.alone_back hback
      exact ⟨(hquiet.send Bool.false_ne_true).elapse _, hsame⟩
  rw [Program.wp_alone] at hkept ⊢
  obtain ⟨⟨hafter, hsame⟩, -⟩ := hkept
  refine ⟨⟨hafter, ?_⟩, fun _ _ => trivial⟩
  unfold Balanced
  rw [hsame]
  exact HasReleased.other hbalanced hother

section Accounting

variable (hc : c.Attached first)

include hc

/-- Closing a cursor finishes it. -/
theorem wp_close_finished (h : c.Accounted others first s₀ w s) :
    c.close.wp .alone (fun _ w s => c.Finished others first s₀ w s) w s := by
  obtain ⟨hquiet, hbalanced⟩ := h
  have hkept := keeps_close (Watch.hosts_alone _) (fun _ _ => trivial) hquiet
  obtain ⟨L, hL, -, -⟩ := hquiet
  obtain ⟨events, -, hlaw, rfl⟩ := hL.events
  have hphased := hlaw.phased (Ledger.opened_phased c.service.mode hc.named)
  refine Program.wp_mono (Program.wp_alone_and hkept
    (wp_close_balanced hc.channel hphased hL.state hbalanced)) fun _ _ _ hend => ?_
  exact ⟨⟨hend.1, hend.2.1⟩, hend.2.2⟩

/-- **A program behind which the cursor is closed finishes it,** however the program ends. -/
theorem wp_closing_finished {body : Program β}
    (hbody : body.wp .alone (fun _ w s => c.Accounted others first s₀ w s) w s) :
    (c.closing body).wp .alone (fun _ w s => c.Finished others first s₀ w s) w s := by
  refine wp_closing_of (fun _ _ _ _ hend => ⟨logless_accounted _ _ hend.1, hend.2⟩) ?_
  exact Program.wp_mono hbody fun _ _ _ h => wp_close_finished hc h

/-- **The accounts are kept up** by all operations of the cursor. -/
theorem upkeep_accounted : c.Upkeep .alone (c.Accounted others first s₀) fun _ => True where
  logless := logless_accounted
  fetchNext deadline w s h hneeds := by
    have hquiet := wp_fetchNext_quiet (Watch.hosts_alone _) (fun _ _ => trivial) deadline h.1 hneeds
    have hbalanced := wp_fetchNext_balanced hc.blocking deadline (needsFetch_iff.1 hneeds).2 h.2
    refine Program.wp_mono (Program.wp_alone_and hquiet hbalanced) fun _ _ _ hend => ?_
    exact (Program.kept_iff fun _ => trivial).2 hend
  close w s h := Program.wp_mono (wp_close_finished hc h) fun _ _ _ hend =>
    (Program.kept_iff fun _ => trivial).2 hend.1
  closed := trivial
  wrongType := trivial

theorem Uses.accounted (hothers : ∀ γ (p : Program γ), others γ p → c.Aloof p) {p : Program β}
    (hp : c.Uses others p) : p.Upholds .alone (c.Accounted others first s₀) fun _ => True :=
  (upkeep_accounted hc).uses accounted_handOut
    (fun hother => Aloof.accounted (hothers _ _ hother) hother) hp

end Accounting

/-! ### What a cursor leaves behind -/

/-- The releases that are due over the whole life of a cursor that is closed: one if the latest
batch that has arrived announced more. -/
def due (c : Cursor α) (s : Scene) : Nat :=
  if (Ledger.of c.ref s.history).arrived.getLast?.map Batch.hasMore = some true then 1 else 0

/-- All batches that have arrived came with warnings that can be gone through. -/
def Legible (c : Cursor α) (s : Scene) : Prop :=
  ∀ b ∈ (Ledger.of c.ref s.history).arrived, b.Legible

/-- **A cursor is over:** it is closed and holds nothing, and since it was made it has been released
once if the latest batch had announced more, and not at all otherwise. -/
structure Over (c : Cursor α) (others : (γ : Type) → Program γ → Prop) (s₀ s : Scene) : Prop where
  closed : (s.cursors c.ref).phase = .closed
  buffer : (s.cursors c.ref).buffer = []
  /-- This is so of what the operations of the cursor have sent, whatever others have sent. -/
  once : ∃ own foreign, s₀.Way others own foreign s ∧ (c.Legible s → c.releases own = c.due s)
  /-- And it is so of all that has been sent, if the others keep away from the cursors. -/
  whole : (∀ γ (p : Program γ), others γ p → c.Apart p) →
    ∃ since, s.sent = s₀.sent ++ since ∧ (c.Legible s → c.releases since = c.due s)

/-- What keeps away from the cursors releases none of them, so that the own requests count. -/
theorem releases_of_way {own foreign since : List Request} (hplaced : c.ref < s₀.cursorCount)
    (hothers : ∀ γ (p : Program γ), others γ p → c.Apart p) (hway : s₀.Way others own foreign s)
    (hperm : since.Perm (own ++ foreign)) : c.releases since = c.releases own := by
  have hnone : foreign.filter c.concerns = [] := hway.foreign_avoids hothers hplaced
  have hforeign : c.releases foreign = 0 := by
    refine List.countP_eq_zero.2 fun q hq hrelease => ?_
    have hmem : q ∈ foreign.filter c.concerns :=
      List.mem_filter.2 ⟨hq, (Bool.and_eq_true_iff.1 hrelease).1⟩
    rw [hnone] at hmem
    cases hmem
  calc c.releases since = c.releases (own ++ foreign) := hperm.countP_eq _
    _ = c.releases own + c.releases foreign := releases_append own foreign
    _ = c.releases own := by rw [hforeign, Nat.add_zero]

theorem over_of_finished (hc : c.Attached first) (hfresh : c.Fresh first s₀)
    (h : c.Finished others first s₀ w s) : c.Over others s₀ s := by
  obtain ⟨⟨⟨L, hL, hlevel, -⟩, own, foreign, hway, hcount⟩, hclosed⟩ := h
  have hbooks : Ledger.of c.ref s.history = L := hL.books hfresh.books.symm
  obtain ⟨_, -, hlaw, rfl⟩ := hL.events
  have hphased := hlaw.phased (Ledger.opened_phased c.service.mode hc.named)
  have hdue : c.Legible s → c.releases own = c.due s := by
    intro hlegible
    unfold Legible due at *
    rw [hbooks] at hlegible ⊢
    -- the latest batch that has arrived is the latest one that was settled
    have hlatest := hL.sound.latest
    rw [hlevel hlegible] at hlatest
    rw [hcount, hlatest, ← hL.state]
    unfold CursorState.releasesDue
    simp only [hclosed, true_and, Option.some.injEq]
  refine ⟨hclosed, ?_, ⟨own, foreign, hway, hdue⟩, fun hothers => ?_⟩
  · rw [hL.state] at hclosed ⊢
    exact hphased.closed hc.blocking hclosed
  · obtain ⟨since, hsent, hperm⟩ := hway.sent
    refine ⟨since, hsent, fun hlegible => ?_⟩
    rw [releases_of_way hfresh.placed hothers hway hperm]
    exact hdue hlegible

end Cursor

end AqlClient
