import AqlClient.Proofs.Cursor.Opening
import AqlClient.Proofs.Cursor.Upkeep

/-!
# The operations of a cursor keep a watch

Whatever is done with a cursor, the rules of a watch are obeyed (`Watch.Hosts.keeps_client`),
provided that the discipline under which it is done lets a cursor send its requests and gives
back scenes that are quiet again (`Watch.Hosts`).

What has to be seen for this is that fetching, closing and handing out keep the watch. During the
exchange of a blocking cursor nothing else happens, so that its books stand still. During that of
an asynchronous one anything may happen that keeps the watch; what is left of the books is that a
batch is on its way, and from this it follows that the buffer is empty when the batch arrives
(`Ledger.Sound.fetching`).
-/

namespace AqlClient

variable {α β : Type} {c : Cursor α}

namespace Watch

variable (W : Watch c)

/-- **A discipline under which the cursor can be used.** -/
structure Hosts (D : Discipline Bool) : Prop where
  /-- Nothing happens at an exchange of a blocking cursor but the exchange itself. -/
  alone : c.service.mode = .blocking → D = .alone
  /-- A request that is no fetch of the cursor may be sent, and the scene is quiet again when
  the reply is back. -/
  pass : ∀ ⦃w s q⦄, (W.mine q = true → q.method ≠ "PUT") → W.Quiet w (s.send q).2 →
    D.may w s q ∧ ∀ w' reply s', D.back w s q w' reply s' → W.Quiet w' s'
  /-- A fetch may be sent where no other is on its way, and then none but this one is. -/
  fetch : c.service.mode = .async → ∀ ⦃s⦄ id limit body,
    W.Quiet true (s.send (c.request "PUT" id limit body)).2 →
      D.may false s (c.request "PUT" id limit body) ∧
        ∀ w' reply s', D.back false s (c.request "PUT" id limit body) w' reply s' →
          w' = false ∧ W.Quiet true s'

/-- The rules allow everything but handing out items. -/
def Receptive : Prop := ∀ ⦃change : CursorChange⦄, (∀ n, change ≠ .taken n) → W.allows change

/-- The rules allow everything. -/
def Free : Prop := ∀ change, W.allows change

/-- A quiet scene in which nothing is missing: what has been taken and what is in the buffer are all
that has arrived. -/
def Whole (flag : Bool) (s : Scene) : Prop :=
  ∃ L, W.Course L s ∧ L.Level ∧ L.state.fetching = flag ∧ L.taken ++ L.state.buffer = L.items

/-- How a fetch ends. -/
def Fetched (r : Except Failure β) (flag : Bool) (s : Scene) : Prop :=
  match r with
  | .ok _ => W.Whole flag s
  | .error _ => W.Quiet flag s

/-- A batch may arrive. -/
def Awaiting (flag : Bool) (s : Scene) : Prop :=
  ∃ L, W.Course L s ∧ L.Level ∧ flag = false ∧ L.Awaits c.service.mode

variable {W} {D : Discipline Bool} {w : Bool} {s : Scene} {L : Ledger}

theorem Free.receptive (h : W.Free) : W.Receptive := fun change _ => h change

theorem Whole.quiet (h : W.Whole w s) : W.Quiet w s := by
  obtain ⟨L, hL, hlevel, hw, -⟩ := h
  exact ⟨L, hL, hlevel, hw⟩

theorem Fetched.quiet {r : Except Failure β} (h : W.Fetched r w s) : W.Quiet w s := by
  cases r with
  | ok b => exact Whole.quiet h
  | error e => exact h

theorem Awaiting.quiet (h : W.Awaiting w s) : W.Quiet w s := by
  obtain ⟨L, hL, hlevel, hw, hawaits⟩ := h
  exact ⟨L, hL, hlevel, hawaits.flag.trans hw.symm⟩

/-- **Where a batch was on its way, one may arrive** once the flag is taken back, however the books
have changed meanwhile. -/
theorem Quiet.cleared (hW : W.Receptive) (h : W.Quiet true s) :
    W.Awaiting false (s.changeCursor c.ref (.fetching false)) := by
  obtain ⟨L, hL, hlevel, hf⟩ := h
  obtain ⟨hmode, hbuffer, htaken, hphase⟩ := hL.sound.fetching hf
  have hfit : L.Fits c.service.mode (.fetching false) := hf
  refine ⟨_, hL.change (hW fun _ => CursorChange.noConfusion) hfit, hlevel, rfl, hbuffer, ?_, rfl,
    hphase, ?_⟩
  · rw [Ledger.items_note, List.append_nil]
    exact htaken
  · intro hblocking
    rw [hmode] at hblocking
    cases hblocking

/-- A request that is no fetch is sent from a quiet scene. -/
theorem Quiet.send (h : W.Quiet w s) {q : Request} (hq : ¬ W.mine q = true) :
    W.Quiet w (s.send q).2 := by
  obtain ⟨L, hL, hlevel, hw⟩ := h
  exact ⟨_, hL.send fun hmine => absurd hmine hq, hlevel, hw⟩

/-- On its own, a cursor can be used under any rules. -/
theorem hosts_alone (W : Watch c) : W.Hosts .alone where
  alone _ := rfl
  pass w s q _ h := by
    refine ⟨trivial, fun w' reply s' hback => ?_⟩
    obtain ⟨rfl, rfl⟩ := Discipline.alone_back hback
    exact h.elapse _
  fetch _ s id limit body h := by
    refine ⟨trivial, fun w' reply s' hback => ?_⟩
    obtain ⟨rfl, rfl⟩ := Discipline.alone_back hback
    exact ⟨rfl, h.elapse _⟩

namespace Hosts

variable (hD : W.Hosts D)

include hD

/-- A program that does nothing the rules forbid to it. -/
theorem keeps_avoids {p : Program β} (hp : p.Avoids c.ref W.Bars fun q => W.mine q = true) :
    W.Keeps D p := by
  intro w s h
  refine Program.wp_mono (hp.upholds (E := fun _ => True) ?_ ?_ ?_ (fun _ => trivial) h)
    fun _ _ _ hend => hend.1
  · rintro w s ⟨L, hL, -, -⟩
    exact hL.placed
  · rintro w s change hbars ⟨L, hL, hlevel, hw⟩
    exact ⟨L, hL.enact hbars, hlevel, hw⟩
  · exact fun w s q hq h => hD.pass (fun hmine => absurd hmine hq) (h.send hq)

/-- What leaves the cursor alone keeps the watch, if no journal is to be kept. -/
theorem keeps_apart (hmine : ∀ q, W.mine q = true → c.concerns q = true)
    (hkept : ∀ slot, W.kept slot = none) {p : Program β} (hp : c.Apart p) : W.Keeps D p :=
  hD.keeps_avoids (hp.weaken (fun _ hbars => touches_of_bars hkept hbars) hmine)

end Hosts

end Watch

/-! ### Handing out -/

namespace Cursor

variable {W : Watch c} {D : Discipline Bool} {w : Bool} {s : Scene} {L : Ledger}

theorem keeps_handOut (hfree : W.Free) (number : Nat) : W.Keeps D (c.handOut number) := by
  intro w s h
  rw [wp_handOut]
  obtain ⟨L, hL, hlevel, hw⟩ := h
  split
  · exact ⟨_, hL.change (hfree _) trivial, hlevel, hw⟩
  · exact ⟨L, hL, hlevel, hw⟩

/-! ### Fetching -/

/-- A batch arrives where one is awaited. -/
theorem wp_ingest_awaiting (hW : W.Receptive) (b : Batch) (h : W.Awaiting w s) :
    (c.ingest b).wp D W.Fetched w s := by
  obtain ⟨L, hL, hlevel, rfl, hawaits⟩ := h
  let I : Bool → Scene → Prop := fun w s => w = false ∧ W.Course (L.note (.received b)) s
  have hI : Logless I := fun _ _ level text h => ⟨h.1, h.2.record level text⟩
  have hreceived : W.Course (L.note (.received b)) (s.changeCursor c.ref (.received b)) :=
    hL.change (hW fun _ => CursorChange.noConfusion) hawaits
  refine wp_ingest hI b ⟨rfl, hreceived⟩ ?_ ?_
  · rintro w s ⟨rfl, hL'⟩
    have hfit : (L.note (.received b)).Fits c.service.mode (.settled b) :=
      ⟨hawaits.flag, hawaits.phase⟩
    refine ⟨_, hL'.change (hW fun _ => CursorChange.noConfusion) hfit,
      hlevel.receive_settle b, hawaits.flag, ?_⟩
    rw [Ledger.items_note, List.append_nil]
    exact hawaits.whole b
  · -- the arrival ends half-way, which is possible for one reason only
    rintro e w s ⟨rfl, hL'⟩ hb
    exact ⟨_, hL', Ledger.Level.receive_illegible hb, hawaits.flag⟩

/-- A blocking cursor fetches on its own, so that its books stand still but for what it owes. -/
theorem wp_fetchBatch_blocking (hD : W.Hosts D) (hmode : c.service.mode = .blocking)
    (deadline : Option Deadline) (hL : W.Course L s) (hlevel : L.Level)
    (hbuffer : L.state.buffer = []) (hlive : L.state.phase = .live)
    (hw : L.state.fetching = w) :
    (c.fetchBatch deadline).wp D (fun _ w s => W.Awaiting w s) w s := by
  obtain rfl := hD.alone hmode
  have hnone : L.state.fetching = false := hL.sound.idle hmode
  subst hw
  -- the books stand still during the whole exchange, but for what the cursor owes
  let I : Bool → Scene → Prop := fun w s =>
    w = false ∧ ∃ owed, W.Course { L with owed := owed } s
  have hI : Logless I := by
    rintro w s level text ⟨hw, owed, hL⟩
    exact ⟨hw, owed, hL.record level text⟩
  have hcarries : ∀ id limit, c.service.gateway.Carries .alone I I
      (QueryService.cursorCall "PUT" id limit) := by
    rintro id limit body w s ⟨hw, owed, hL⟩
    refine ⟨trivial, ?_⟩
    intro w' reply s' hback
    obtain ⟨rfl, rfl⟩ := Discipline.alone_back hback
    have hmay : Ledger.MayFetch c.service.mode { L with owed := owed } :=
      ⟨hlevel, hbuffer, hlive, by rw [hmode]; exact hnone⟩
    have hsent := hL.send (q := c.request "PUT" id limit body) fun _ => .inl ⟨rfl, hmay⟩
    exact ⟨hw, false, hsent.elapse _⟩
  refine Program.wp_mono (wp_fetchBatch hI hI deadline hcarries ⟨hnone, L.owed, hL⟩) ?_
  intro r w s h
  obtain ⟨hw, owed, hL⟩ : I w s := h.elim id id
  have htaken : L.taken = L.items := hL.sound.all_taken hbuffer hlive
  refine ⟨_, hL, hlevel, hw, hbuffer, htaken, hnone, ?_, fun _ => hlive⟩
  show L.state.phase ≠ .exhausted
  rw [hlive]
  exact Phase.noConfusion

/-- While an asynchronous cursor fetches, anything may happen that keeps the watch. That a batch
is on its way is enough to know that the buffer is empty when it arrives. -/
theorem wp_fetchAlone_async (hD : W.Hosts D) (hW : W.Receptive) (hmode : c.service.mode = .async)
    (deadline : Option Deadline) (hL : W.Course L s) (hlevel : L.Level)
    (hbuffer : L.state.buffer = []) (hlive : L.state.phase = .live)
    (hw : L.state.fetching = w) :
    (c.fetchAlone deadline).wp D (fun r w s => match r with
      | .ok _ => W.Awaiting w s
      | .error _ => W.Quiet w s) w s := by
  rw [wp_fetchAlone, hL.state]
  split
  case isTrue hf => exact ⟨L, hL, hlevel, hw⟩
  case isFalse hf =>
    obtain rfl : w = false := hw ▸ Bool.eq_false_iff.2 hf
    -- nobody else has a turn before the request, so that the books are known up to it
    let I : Bool → Scene → Prop := fun w s =>
      w = false ∧ ∃ owed, W.Course { L.note (.fetching true) with owed := owed } s
    let J : Bool → Scene → Prop := fun w s => w = false ∧ W.Quiet true s
    have hI : Logless I := by
      rintro w s level text ⟨hw, owed, hL⟩
      exact ⟨hw, owed, hL.record level text⟩
    have hJ : Logless J := fun w s level text h => ⟨h.1, h.2.record level text⟩
    have hcarries : ∀ id limit, c.service.gateway.Carries D I J
        (QueryService.cursorCall "PUT" id limit) := by
      rintro id limit body w s ⟨rfl, owed, hL⟩
      have hmay : Ledger.MayFetch c.service.mode { L.note (.fetching true) with owed := owed } :=
        ⟨hlevel, hbuffer, hlive, by rw [hmode]; rfl⟩
      exact hD.fetch hmode id limit body
        ⟨_, hL.send fun _ => .inl ⟨rfl, hmay⟩, hlevel, rfl⟩
    have hmarked : W.Course (L.note (.fetching true)) (s.changeCursor c.ref (.fetching true)) :=
      hL.change (hW fun _ => CursorChange.noConfusion) ⟨hmode, hbuffer, hlive⟩
    refine Program.wp_mono (wp_fetchBatch hI hJ deadline hcarries ⟨rfl, _, hmarked⟩) ?_
    intro r w s h
    have hquiet : w = false ∧ W.Quiet true s := by
      cases h with
      | inl h =>
        -- nothing was sent
        obtain ⟨hw, owed, hL⟩ := h
        exact ⟨hw, _, hL, hlevel, rfl⟩
      | inr h => exact h
    obtain ⟨rfl, hunderway⟩ := hquiet
    have hcleared := hunderway.cleared hW
    cases r with
    | error e => exact hcleared.quiet
    | ok b => exact hcleared

/-- **A fetch keeps the watch.** It is made where the buffer is empty and the cursor is live. -/
theorem wp_fetchNext (hD : W.Hosts D) (hW : W.Receptive) (deadline : Option Deadline)
    (h : W.Quiet w s) (hneeds : (s.cursors c.ref).needsFetch = true) :
    (c.fetchNext deadline).wp D W.Fetched w s := by
  obtain ⟨L, hL, hlevel, hw⟩ := h
  rw [hL.state] at hneeds
  obtain ⟨hbuffer, hlive⟩ := needsFetch_iff.1 hneeds
  unfold fetchNext
  split
  case h_1 hmode =>
    refine Program.wp_seq
      (wp_fetchBatch_blocking hD hmode deadline hL hlevel hbuffer hlive hw) ?_ ?_
    · exact fun b w s h => wp_ingest_awaiting hW b h
    · exact fun e w s h => h.quiet
  case h_2 hmode =>
    refine Program.wp_seq
      (wp_fetchAlone_async hD hW hmode deadline hL hlevel hbuffer hlive hw) ?_ ?_
    · exact fun b w s h => wp_ingest_awaiting hW b h
    · exact fun e w s h => h

/-! ### Closing -/

/-- Closing a cursor keeps the watch: the release is owed from the moment it is closed. -/
theorem keeps_close (hD : W.Hosts D) (hW : W.Receptive) : W.Keeps D c.close := by
  intro w s h
  obtain ⟨L, hL, hlevel, hw⟩ := h
  have hclosed : W.Course (L.note .closed) (s.changeCursor c.ref .closed) :=
    hL.change (hW fun _ => CursorChange.noConfusion) trivial
  unfold close
  rw [wp_look, wp_update, hL.state]
  split
  case h_1 => exact ⟨_, hclosed, hlevel, hw⟩
  case h_2 id hid =>
    let I : Bool → Scene → Prop := fun w' s => w' = w ∧ W.Course (L.note .closed) s
    have hI : Logless I := fun _ _ level text h => ⟨h.1, h.2.record level text⟩
    have hJ : Logless fun w s => W.Quiet w s := fun _ _ level text h => h.record level text
    have howed : (L.note .closed).MayRelease := by
      refine ⟨hlevel, ?_⟩
      show L.state.toRelease.isSome = true
      rw [hid]
      rfl
    have hcarries : c.service.gateway.Carries D I (fun w s => W.Quiet w s)
        (QueryService.cursorCall "DELETE" id c.plainLimit) := by
      -- a release is no fetch, so that it may be sent while a batch is on its way
      rintro body w' s ⟨rfl, hL⟩
      refine hD.pass (q := c.request "DELETE" id c.plainLimit body) ?_ ?_
      · exact fun _ hput => absurd hput (by show ¬ "DELETE" = "PUT"; decide)
      · exact ⟨_, hL.send fun _ => .inr ⟨rfl, howed⟩, hlevel, hw⟩
    refine Program.wp_mono (QueryService.wp_release hI hJ hcarries ⟨rfl, hclosed⟩) ?_
    rintro r w' s (⟨rfl, hL⟩ | hquiet)
    · exact ⟨_, hL, hlevel, hw⟩
    · exact hquiet

/-! ### Everything else -/

theorem wp_fetchNext_quiet (hD : W.Hosts D) (hW : W.Receptive) (deadline : Option Deadline)
    (h : W.Quiet w s) (hneeds : (s.cursors c.ref).needsFetch = true) :
    (c.fetchNext deadline).wp D (fun _ w s => W.Quiet w s) w s :=
  Program.wp_mono (wp_fetchNext hD hW deadline h hneeds) fun _ _ _ h => h.quiet

/-- **Quiet scenes are kept up,** whatever the operations fail with. -/
theorem upkeep_quiet (hD : W.Hosts D) (hW : W.Receptive) :
    c.Upkeep D W.Quiet fun _ => True where
  logless _ _ level text h := h.record level text
  fetchNext deadline _ _ h hneeds :=
    Program.wp_mono (wp_fetchNext_quiet hD hW deadline h hneeds) fun _ _ _ h =>
      (Program.kept_iff fun _ => trivial).2 h
  close _ _ h := Program.wp_mono (keeps_close hD hW h) fun _ _ _ h =>
    (Program.kept_iff fun _ => trivial).2 h
  closed := trivial
  wrongType := trivial

theorem keeps_iff_upholds {p : Program β} :
    W.Keeps D p ↔ p.Upholds D W.Quiet fun _ => True := by
  constructor
  · exact fun hp w s h => Program.wp_mono (hp h) fun _ _ _ h =>
      (Program.kept_iff fun _ => trivial).2 h
  · exact fun hp w s h => Program.wp_mono (hp h) fun _ _ _ h => h.1

theorem keeps_closeAfterFailure (hD : W.Hosts D) (hW : W.Receptive) :
    W.Keeps D c.closeAfterFailure :=
  keeps_iff_upholds.2 (upkeep_quiet hD hW).closeAfterFailure

theorem keeps_fill (hD : W.Hosts D) (hW : W.Receptive) (deadline : Option Deadline) :
    W.Keeps D (c.fill deadline) :=
  keeps_iff_upholds.2 ((upkeep_quiet hD hW).fill deadline)

theorem keeps_hasNext (hD : W.Hosts D) (hW : W.Receptive) : W.Keeps D c.hasNext :=
  keeps_iff_upholds.2 (upkeep_quiet hD hW).hasNext

theorem keeps_deadline (hD : W.Hosts D) (hW : W.Receptive) (overall : Value) :
    W.Keeps D (c.deadline overall) :=
  keeps_iff_upholds.2 ((upkeep_quiet hD hW).deadline overall)

end Cursor

/-- **Whatever a caller does with a cursor keeps the watch.** -/
theorem Watch.Hosts.keeps_client {W : Watch c} {D : Discipline Bool} (hD : W.Hosts D)
    (hW : W.Free) (hmine : ∀ q, W.mine q = true → c.concerns q = true)
    (hkept : ∀ slot, W.kept slot = none) {p : Program β} (hp : c.Client p) : W.Keeps D p := by
  refine Cursor.keeps_iff_upholds.2 ((Cursor.upkeep_quiet hD hW.receptive).uses ?_ ?_ hp)
  · exact fun number => Cursor.keeps_iff_upholds.1 (Cursor.keeps_handOut hW number)
  · exact fun hp => Cursor.keeps_iff_upholds.1 (hD.keeps_apart hmine hkept hp)

end AqlClient
