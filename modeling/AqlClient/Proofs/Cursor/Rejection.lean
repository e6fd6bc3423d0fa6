import AqlClient.Proofs.Cursor.Intact

/-!
# Items that are rejected

An item that is not accepted stays where it is. What has been taken out of the buffer has therefore
been accepted, whatever a caller has done so far (`Watch.Vetted`, `Cursor.Client.vetted`), so that
the item at which a cursor is stuck is the first one that is not accepted of all that have ever
arrived (`Cursor.Stuck.rejects`). Its position in the whole result is how many have been taken, and
how many stand in front of it in the buffer: the count that the cursor keeps is right, since the
books are (`Cursor.stuck_of_balks`).

The next item and the next batch fail at such an item, or because no batch could be obtained
(`Cursor.Converts`). In the first case nothing has happened since the latest batch was obtained, if
the call had to obtain one at all, and the same call fails once more without doing anything
(`Cursor.Blocked`). In the second case the buffer is empty and the cursor live, so that everything
that has arrived had been taken before. A batch whose warnings cannot be gone through is apart from
both: its items are in the buffer, but nobody has tried to convert them.

That what hands nothing out leaves everything accepted is not proved over again for each operation:
it keeps any watch that is receptive, hence one under which nothing may be handed out
(`Watch.Vetted.wp`).
-/

namespace AqlClient

variable {α β : Type} {c : Cursor α}

/-! ### What has been taken has been accepted -/

namespace Watch

variable {W : Watch c} {w : Bool} {s : Scene}

/-- Under the rules of a watch, everything that has been taken has been accepted. -/
def Vetted (W : Watch c) (w : Bool) (s : Scene) : Prop :=
  ∃ L, W.Course L s ∧ L.Level ∧ L.state.fetching = w ∧ c.mapper.Accepts L.taken

theorem Vetted.quiet (h : W.Vetted w s) : W.Quiet w s := by
  obtain ⟨L, hL, hlevel, hw, -⟩ := h
  exact ⟨L, hL, hlevel, hw⟩

theorem logless_vetted : Logless W.Vetted := by
  rintro w s level text ⟨L, hL, hrest⟩
  exact ⟨L, hL.record level text, hrest⟩

variable (hfree : W.Free) (hkept : ∀ k, W.kept k = none)

include hfree hkept

/-- What takes nothing leaves everything accepted. -/
theorem Vetted.wp {p : Program β} (h : W.Vetted w s)
    (hp : ∀ W' : Watch c, W'.Receptive → W'.mine = W.mine → (∀ k, W'.kept k = none) →
      W'.Quiet w s → p.wp .alone (fun _ w s => W'.Quiet w s) w s) :
    p.wp .alone (fun _ w s => W.Vetted w s) w s := by
  obtain ⟨L, hL, hlevel, hw, haccepts⟩ := h
  -- from here on nothing may be handed out
  let W' : Watch c := { W with
    allows := fun change => W.allows change ∧ ∀ n, change ≠ .taken n
    past := s.history
    opening := L
    sound := hL.sound }
  have hstart : W'.Course L s := by
    refine Course.start (W := W') rfl hL.state hL.placed fun k n hk => ?_
    rw [hkept k] at hk
    cases hk
  have hend := hp W' (fun change hc => ⟨hfree change, hc⟩) rfl hkept ⟨L, hstart, hlevel, hw⟩
  refine Program.wp_mono hend fun r w s' hquiet => ?_
  obtain ⟨M, hM, hlevelM, hwM⟩ := hquiet
  obtain ⟨hcourse, hsame⟩ := hM.withheld hL hkept rfl rfl rfl fun _ hc => hc
  exact ⟨M, hcourse, hlevelM, hwM, hsame ▸ haccepts⟩

end Watch

namespace Cursor

section Vetting

variable {W : Watch c} (hfree : W.Free) (hkept : ∀ k, W.kept k = none)

include hfree

/-- What is handed out has been accepted. -/
theorem vetted_handOut (number : Nat) :
    (c.handOut number).Upholds .alone W.Vetted fun _ => True := by
  rintro w s ⟨L, hL, hlevel, hw, haccepts⟩
  rw [wp_handOut]
  split
  case h_1 items hitems =>
    refine Program.kept_ok ⟨_, hL.change (hfree _) trivial, hlevel, hw, ?_⟩
    show c.mapper.Accepts (L.taken ++ L.state.buffer.take number)
    rw [← hL.state]
    exact haccepts.append (Mapper.accepts_of_convert hitems)
  case h_2 e _ => exact Program.kept_error ⟨L, hL, hlevel, hw, haccepts⟩ trivial

include hkept

theorem upkeep_vetted : c.Upkeep .alone W.Vetted fun _ => True where
  logless := Watch.logless_vetted
  fetchNext deadline _ _ h hneeds :=
    Program.wp_mono (h.wp hfree hkept fun W' hW' _ _ hquiet =>
      wp_fetchNext_quiet W'.hosts_alone hW' deadline hquiet hneeds)
      fun _ _ _ h => (Program.kept_iff fun _ => trivial).2 h
  close _ _ h :=
    Program.wp_mono (h.wp hfree hkept fun W' hW' _ _ hquiet =>
      keeps_close W'.hosts_alone hW' hquiet) fun _ _ _ h => (Program.kept_iff fun _ => trivial).2 h
  closed := trivial
  wrongType := trivial

/-- **Whatever a caller does with a cursor,** what has been taken has been accepted. -/
theorem Client.vetted (hmine : ∀ q, W.mine q = true → c.concerns q = true) {p : Program β}
    (hp : c.Client p) : p.Upholds .alone W.Vetted fun _ => True := by
  refine (upkeep_vetted hfree hkept).uses (vetted_handOut hfree) ?_ hp
  intro γ p hp w s h
  refine Program.wp_mono (h.wp hfree hkept fun W' _ hmine' hkept' hquiet => ?_)
    fun _ _ _ h => (Program.kept_iff fun _ => trivial).2 h
  exact W'.hosts_alone.keeps_apart (fun q hq => hmine q (hmine' ▸ hq)) hkept' hp hquiet

end Vetting

/-! ### Fetches -/

/-- **A batch has just been obtained:** nothing has happened since its arrival has been settled, and
the cursor is not closed. -/
structure Obtained (c : Cursor α) (s : Scene) : Prop where
  opened : (s.cursors c.ref).phase ≠ .closed
  settled : ∃ (earlier : Scene) (b : Batch), s = earlier.changeCursor c.ref (.settled b)

/-- **No batch has been obtained:** one is still needed, unless the warnings of one that has arrived
cannot be gone through. -/
def Wanting (c : Cursor α) (s : Scene) : Prop :=
  (∀ b ∈ (Ledger.of c.ref s.history).arrived, b.Legible) → (s.cursors c.ref).needsFetch = true

/-- A batch that arrives is obtained, if its warnings can be gone through. -/
theorem wp_ingest_obtained {ω : Type} {D : Discipline ω} {w : ω} {s : Scene} (b : Batch)
    (hneeds : (s.cursors c.ref).needsFetch = true) :
    (c.ingest b).wp D (fun r _ s' => (∀ u, r = .ok u → c.Obtained s') ∧
      ∀ e, r = .error e → c.Wanting s') w s := by
  let I : ω → Scene → Prop := fun _ s' =>
    (s'.cursors c.ref).phase ≠ .closed ∧ b ∈ (Ledger.of c.ref s'.history).arrived
  have hI : Logless I := fun _ _ _ _ h => h
  have hopen : (s.cursors c.ref).phase ≠ .closed :=
    CursorState.ne_closed_of_live (needsFetch_iff.1 hneeds).2
  refine wp_ingest hI b ⟨?_, ?_⟩ ?_ ?_
  · rw [Scene.changeCursor_cursors_self]
    exact hopen
  · show b ∈ (Ledger.of c.ref (s.history ++ [_])).arrived
    rw [Ledger.of_change]
    exact List.mem_append_right _ List.mem_cons_self
  · rintro w s' ⟨hopen', -⟩
    refine ⟨fun _ _ => ⟨?_, s', b, rfl⟩, fun _ he => (by cases he)⟩
    rw [Scene.changeCursor_cursors_self]
    exact CursorState.settled_ne_closed hopen' b
  · rintro e w s' ⟨-, hb⟩ hillegible
    exact ⟨fun _ hu => (by cases hu), fun _ _ hlegible => absurd (hlegible b hb) hillegible⟩

/-- **A fetch of a cursor on its own** obtains a batch, or the cursor is left without one. -/
theorem wp_fetchNext_obtained (deadline : Option Deadline) {w : Bool} {s : Scene}
    (hneeds : (s.cursors c.ref).needsFetch = true) :
    (c.fetchNext deadline).wp .alone (fun r _ s' => (∀ u, r = .ok u → c.Obtained s') ∧
      ∀ e, r = .error e → c.Wanting s') w s := by
  let I : Bool → Scene → Prop := fun _ s' => (s'.cursors c.ref).needsFetch = true
  have hI : Logless I := fun _ _ _ _ h => h
  have hcarries : ∀ id limit, c.service.gateway.Carries .alone I I
      (QueryService.cursorCall "PUT" id limit) := by
    intro id limit body w s' hs'
    refine ⟨trivial, fun w' reply s'' hback => ?_⟩
    obtain ⟨-, rfl⟩ := Discipline.alone_back hback
    exact hs'
  have hingest : ∀ {fetch : Program Batch}, fetch.wp .alone (fun _ w s' => I w s') w s →
      (fetch >>= c.ingest).wp .alone (fun r _ s' => (∀ u, r = .ok u → c.Obtained s') ∧
        ∀ e, r = .error e → c.Wanting s') w s := by
    intro fetch hfetch
    refine Program.wp_seq hfetch ?_ ?_
    · exact fun b w s' hs' => wp_ingest_obtained b hs'
    · exact fun e w s' hs' => ⟨fun _ hu => (by cases hu), fun _ _ _ => hs'⟩
  refine wp_fetchNext_of (hingest ?_) (hingest ?_)
  · exact Program.wp_mono (wp_fetchBatch hI hI deadline hcarries hneeds) fun _ _ _ h => h.elim id id
  · rw [wp_fetchAlone]
    split
    · exact hneeds
    · -- the mark of a fetch has no part in whether one is needed
      have hmarked : I w (s.changeCursor c.ref (.fetching true)) := by
        show ((s.changeCursor c.ref (.fetching true)).cursors c.ref).needsFetch = true
        rw [Scene.changeCursor_cursors_self]
        exact hneeds
      refine Program.wp_mono (wp_fetchBatch hI hI deadline hcarries hmarked) fun _ _ s' h => ?_
      show ((s'.changeCursor c.ref (.fetching false)).cursors c.ref).needsFetch = true
      rw [Scene.changeCursor_cursors_self]
      exact h.elim id id

/-! ### The next item and the next batch -/

/-- **A cursor is stuck** at an item in its buffer that is not accepted: it fails with what the caller
hears of that item, which stands behind all that has been taken and whatever is accepted in front of
it. -/
def Stuck (c : Cursor α) (e : Failure) (s : Scene) : Prop :=
  ∃ front item behind, (s.cursors c.ref).buffer = front ++ item :: behind ∧
    c.mapper.Accepts front ∧ c.mapper.Blames ((Ledger.of c.ref s.history).taken ++ front) item e

/-- Some items in front of the buffer cannot be converted. -/
def Balks (c : Cursor α) (number : Nat) (e : Failure) (s : Scene) : Prop :=
  c.mapper.convert (s.cursors c.ref).consumed ((s.cursors c.ref).buffer.take number) = .error e

section Books

variable {W : Watch c} (hopening : W.opening = Ledger.of c.ref W.past) {w : Bool} {s : Scene}
  {e : Failure} (h : W.Vetted w s)

include hopening h

/-- Where no batch has been obtained, everything that has arrived has been accepted. -/
theorem accepts_of_wanting (hwanting : c.Wanting s)
    (hlegible : ∀ b ∈ (Ledger.of c.ref s.history).arrived, b.Legible) :
    c.mapper.Accepts (Ledger.of c.ref s.history).items := by
  have hneeds := hwanting hlegible
  obtain ⟨L, hL, -, -, haccepts⟩ := h
  rw [hL.state] at hneeds
  obtain ⟨hbuffer, hlive⟩ := needsFetch_iff.1 hneeds
  rw [hL.books hopening, ← hL.sound.all_taken hbuffer hlive]
  exact haccepts

/-- **What cannot be converted** is found where it stands. -/
theorem stuck_of_balks {number : Nat} (hbalks : c.Balks number e s) : c.Stuck e s := by
  obtain ⟨L, hL, -, -, -⟩ := h
  obtain ⟨front, item, behind, fault, hsplit, hfront, hfault, rfl⟩ := Mapper.convert_error hbalks
  refine ⟨front, item, behind ++ (s.cursors c.ref).buffer.drop number, ?_, hfront, ?_⟩
  · rw [← List.cons_append, ← List.append_assoc, ← hsplit, List.take_append_drop]
  · have hindex : ((s.cursors c.ref).consumed : Int) + front.length =
        ((Ledger.of c.ref s.history).taken ++ front).length := by
      rw [hL.books hopening, hL.state, hL.sound.consumed, List.length_append, Int.natCast_add]
    rw [hindex]
    exact Mapper.blames_failureAt hfault

/-- **An item at which a cursor is stuck** is the first one that is not accepted of all that have
arrived. -/
theorem Stuck.rejects (hstuck : c.Stuck e s) :
    c.mapper.Rejects (Ledger.of c.ref s.history).items e := by
  obtain ⟨L, hL, -, -, haccepts⟩ := h
  obtain ⟨front, item, behind, hbuffer, hfront, hblames⟩ := hstuck
  rw [hL.books hopening] at hblames ⊢
  rw [hL.state] at hbuffer
  obtain ⟨more, hmore⟩ := hL.sound.within
  refine ⟨L.taken ++ front, item, behind ++ more, ?_, haccepts.append hfront, hblames⟩
  rw [← hmore, hbuffer]
  simp only [List.append_assoc, List.cons_append]

end Books

/-- What cannot be converted is there. -/
theorem Balks.buffer {number : Nat} {e : Failure} {s : Scene} (h : c.Balks number e s) :
    ¬ (s.cursors c.ref).buffer.isEmpty = true := by
  intro hempty
  rw [Balks, List.isEmpty_iff.1 hempty, List.take_nil] at h
  cases h

theorem Balks.not_needsFetch {number : Nat} {e : Failure} {s : Scene} (h : c.Balks number e s) :
    ¬ (s.cursors c.ref).needsFetch = true := by
  intro hneeds
  exact h.buffer (List.isEmpty_iff.2 (needsFetch_iff.1 hneeds).1)

/-- **The next item fails again** where it cannot be converted, and nothing happens. -/
theorem run_next_balks {e : Failure} {s : Scene} (hopen : (s.cursors c.ref).phase ≠ .closed)
    (h : c.Balks 1 e s) : c.next?.run s = (.error e, s) := by
  have hwp : c.next?.wp .alone (fun r (_ : Unit) s' => (r, s') = (.error e, s)) () s := by
    unfold next?
    rw [wp_look, if_neg hopen]
    unfold fill
    rw [Program.wp_bind, Program.wp_view_bind]
    unfold Scene.horizon fillWithin
    rw [wp_look, if_neg h.not_needsFetch, Program.wp_pure, Program.chain_ok, wp_look,
      if_neg h.buffer]
    unfold pop?
    rw [Program.wp_bind, wp_handOut, h]
    exact rfl
  exact (Program.wp_alone _).1 hwp

/-- **The next batch fails again** where it cannot be converted, and nothing happens. -/
theorem run_nextBatch_balks {e : Failure} {s : Scene}
    (h : c.Balks (s.cursors c.ref).buffer.length e s) : c.nextBatch.run s = (.error e, s) := by
  have hwp : c.nextBatch.wp .alone (fun r (_ : Unit) s' => (r, s') = (.error e, s)) () s := by
    unfold nextBatch
    rw [wp_look, if_neg h.not_needsFetch, wp_drain, wp_handOut, h]
  exact (Program.wp_alone _).1 hwp

/-- **A call has failed at an item that is not accepted:** nothing has been taken, and nothing has
happened since the latest batch was obtained, so that the item is still there with all in front of it;
and made again, the call fails alike and sends nothing. -/
structure Blocked (c : Cursor α) (p : Program β) (s : Scene) (e : Failure) (s' : Scene) : Prop where
  rejects : c.mapper.Rejects (Ledger.of c.ref s'.history).items e
  stuck : c.Stuck e s'
  taken : (Ledger.of c.ref s'.history).taken = (Ledger.of c.ref s.history).taken
  consumed : (s'.cursors c.ref).consumed = (s.cursors c.ref).consumed
  obtained : s' = s ∨ c.Obtained s'
  again : p.run s' = (.error e, s')

/-- **How a call fails** that takes no more than a batch: at an item that is not accepted, or where
everything that has arrived has been accepted. -/
def Converts (c : Cursor α) (p : Program β) (s : Scene) : Prop :=
  ∀ e s', p.run s = (.error e, s') →
    (∀ b ∈ (Ledger.of c.ref s'.history).arrived, b.Legible) →
    c.Blocked p s e s' ∨ c.mapper.Accepts (Ledger.of c.ref s'.history).items

section Calls

variable {W : Watch c} (hopening : W.opening = Ledger.of c.ref W.past)
  (hphased : W.opening.Phased c.service.mode) (hfree : W.Free) (hkept : ∀ k, W.kept k = none)
  (hchannel : c.service.gateway.channel = some c.service.mode) {s : Scene}

include hfree hkept

/-- A fetch obtains a batch, and leaves everything accepted that has been taken. -/
theorem wp_fetchNext_vetted (deadline : Option Deadline) {w : Bool} (h : W.Vetted w s)
    (hneeds : (s.cursors c.ref).needsFetch = true) :
    (c.fetchNext deadline).wp .alone (fun r w s' => W.Vetted w s' ∧
      (∀ u, r = .ok u → c.Obtained s') ∧ ∀ e, r = .error e → c.Wanting s') w s := by
  have hvetted := (upkeep_vetted hfree hkept).fetchNext deadline h hneeds
  have hobtained := wp_fetchNext_obtained deadline (w := w) hneeds
  rw [Program.wp_alone] at hvetted hobtained ⊢
  exact ⟨hvetted.1, hobtained⟩

/-- Looking for an item changes nothing but by a batch that is obtained. -/
theorem stays_fill_obtained (deadline : Option Deadline) :
    (c.fill deadline).Stays .alone (fun w s' => W.Vetted w s' ∧ (s' = s ∨ c.Obtained s'))
      fun _ w s' => W.Vetted w s' ∧ c.Wanting s' := by
  refine Supplied.fill fun w s' hs' hneeds => ?_
  refine Program.wp_mono (wp_fetchNext_vetted hfree hkept deadline hs'.1 hneeds) ?_
  rintro r w s'' ⟨hvetted, hok, herror⟩
  cases r with
  | ok u => exact ⟨hvetted, .inr (hok u rfl)⟩
  | error e => exact ⟨hvetted, herror e rfl⟩

include hopening hphased hchannel

/-- The next item cannot be had where it cannot be converted, or where no batch has been obtained. -/
theorem wp_next_balks (h : W.Vetted false s) :
    c.next?.wp .alone (fun r w s' => ∀ e, r = .error e → W.Vetted w s' ∧
      ((c.Balks 1 e s' ∧ (s'.cursors c.ref).phase ≠ .closed ∧ (s' = s ∨ c.Obtained s')) ∨
        c.Wanting s')) false s := by
  have hrounds : s.script.length < s.horizon := Nat.lt_add_of_pos_right (by decide)
  have hdone := wp_fillWithin_explained hopening hphased hfree hchannel h.quiet
    (List.prefix_refl _) hrounds
  have hfill := Program.wp_alone_and
    (stays_fill_obtained hfree hkept none (s := s) (w := false) ⟨h, .inl rfl⟩)
    (Program.wp_mono hdone fun _ _ _ hend => hend.2)
  unfold next?
  rw [wp_look]
  split
  case isTrue => exact fun _ he => (by cases he)
  case isFalse hopen =>
    refine Program.wp_seq hfill ?_ ?_
    · rintro u w s' ⟨⟨hvetted, hobtained⟩, hneeds⟩
      rw [wp_look]
      split
      case isTrue hempty =>
        -- the server holds no more, so that there is nothing to release
        have hnone : (s'.cursors c.ref).toRelease = none :=
          CursorState.toRelease_of_empty hempty (hneeds u rfl)
        unfold close
        rw [Program.wp_bind, wp_look, wp_update, hnone]
        exact fun _ he => (by cases he)
      case isFalse =>
        unfold pop?
        rw [Program.wp_bind, wp_handOut]
        split
        case h_1 => exact fun _ he => (by cases he)
        case h_2 e hbalks =>
          rintro _ ⟨⟩
          refine ⟨hvetted, .inl ⟨hbalks, ?_, hobtained⟩⟩
          rcases hobtained with rfl | hobtained
          · exact hopen
          · exact hobtained.opened
    · rintro e w s' ⟨⟨hvetted, hwanting⟩, -⟩ _ ⟨⟩
      exact ⟨hvetted, .inr hwanting⟩

omit hopening hphased hchannel in
/-- The next batch cannot be had where it cannot be converted, or where no batch has been
obtained. -/
theorem wp_nextBatch_balks (h : W.Vetted false s) :
    c.nextBatch.wp .alone (fun r w s' => ∀ e, r = .error e → W.Vetted w s' ∧
      ((c.Balks (s'.cursors c.ref).buffer.length e s' ∧ (s' = s ∨ c.Obtained s')) ∨
        c.Wanting s')) false s := by
  have hdrain : ∀ {w s'}, W.Vetted w s' → (s' = s ∨ c.Obtained s') →
      c.drain.wp .alone (fun r w s' => ∀ e, r = .error e → W.Vetted w s' ∧
        ((c.Balks (s'.cursors c.ref).buffer.length e s' ∧ (s' = s ∨ c.Obtained s')) ∨
          c.Wanting s')) w s' := by
    intro w s' hvetted hobtained
    rw [wp_drain, wp_handOut]
    split
    case h_1 => exact fun _ he => (by cases he)
    case h_2 e hbalks =>
      rintro _ ⟨⟩
      exact ⟨hvetted, .inl ⟨hbalks, hobtained⟩⟩
  unfold nextBatch
  rw [wp_look]
  split
  case isFalse => exact hdrain h (.inl rfl)
  case isTrue hneeds =>
    refine Program.wp_seq (wp_fetchNext_vetted hfree hkept none h hneeds) ?_ ?_
    · rintro u w s' ⟨hvetted, hok, -⟩
      exact hdrain hvetted (.inr (hok u rfl))
    · rintro e w s' ⟨hvetted, -, herror⟩ _ ⟨⟩
      exact ⟨hvetted, .inr (herror e rfl)⟩

omit hphased hchannel hfree hkept in
/-- A call that takes nothing when it fails has taken nothing. -/
theorem taken_of_hands {p : Program β} {given : β → List α} {e : Failure} {s' : Scene}
    (h : W.Vetted false s) (hhands : ∀ {taken notes}, W.Took 0 taken notes false s →
      p.wp .alone (Hands W 0 taken notes given) false s) (hrun : p.run s = (.error e, s')) :
    (Ledger.of c.ref s'.history).taken = (Ledger.of c.ref s.history).taken ∧
      (s'.cursors c.ref).consumed = (s.cursors c.ref).consumed := by
  obtain ⟨L, hL, hlevel, hw, -⟩ := h
  have htook : W.Took 0 L.taken (s.journal 0) false s := ⟨L, hL, hlevel, hw, rfl, rfl⟩
  obtain ⟨fresh, ⟨M, hM, -, -, htaken, -⟩, hnone⟩ := Program.run_of_wp (hhands htook) hrun
  obtain rfl : fresh = [] := hnone
  rw [List.append_nil] at htaken
  constructor
  · rw [hM.books hopening, hL.books hopening, htaken]
  · rw [hM.state, hM.sound.consumed, htaken, ← hL.sound.consumed, hL.state]

/-- **The next item cannot be had** if it is not accepted, and it is still there. -/
theorem next_converts (h : W.Vetted false s) : c.Converts c.next? s := by
  intro e s' hrun hlegible
  obtain ⟨hvetted, hbalks | hwanting⟩ :=
    Program.run_of_wp (wp_next_balks hopening hphased hfree hkept hchannel h) hrun e rfl
  · obtain ⟨hbalks, hopen, hobtained⟩ := hbalks
    have hstuck := stuck_of_balks hopening hvetted hbalks
    obtain ⟨htaken, hconsumed⟩ :=
      taken_of_hands hopening h (fun htook => hands_next hfree hkept htook) hrun
    exact .inl ⟨hstuck.rejects hopening hvetted, hstuck, htaken, hconsumed, hobtained,
      run_next_balks hopen hbalks⟩
  · exact .inr (accepts_of_wanting hopening hvetted hwanting hlegible)

omit hphased hchannel in
/-- **The next batch cannot be had** if an item of it is not accepted, and all of it is still
there. -/
theorem nextBatch_converts (h : W.Vetted false s) : c.Converts c.nextBatch s := by
  intro e s' hrun hlegible
  obtain ⟨hvetted, hbalks | hwanting⟩ :=
    Program.run_of_wp (wp_nextBatch_balks hfree hkept h) hrun e rfl
  · obtain ⟨hbalks, hobtained⟩ := hbalks
    have hstuck := stuck_of_balks hopening hvetted hbalks
    obtain ⟨htaken, hconsumed⟩ :=
      taken_of_hands hopening h (fun htook => hands_nextBatch hfree hkept htook) hrun
    exact .inl ⟨hstuck.rejects hopening hvetted, hstuck, htaken, hconsumed, hobtained,
      run_nextBatch_balks hbalks⟩
  · exact .inr (accepts_of_wanting hopening hvetted hwanting hlegible)

omit hphased hchannel in
/-- Where looking for an item has failed, everything that has arrived has been accepted. -/
theorem hasNext_converts {e : Failure} {s' : Scene} (h : W.Vetted false s)
    (hrun : c.hasNext.run s = (.error e, s'))
    (hlegible : ∀ b ∈ (Ledger.of c.ref s'.history).arrived, b.Legible) :
    c.mapper.Accepts (Ledger.of c.ref s'.history).items := by
  have hwp : c.hasNext.wp .alone (fun r w s' => ∀ e, r = .error e → W.Vetted w s' ∧ c.Wanting s')
      false s := by
    unfold hasNext
    rw [wp_look]
    split
    case isTrue => exact fun _ he => (by cases he)
    case isFalse =>
      refine Program.wp_seq (stays_fill_obtained hfree hkept none ⟨h, .inl rfl⟩) ?_ ?_
      · exact fun _ _ _ _ _ he => (by cases he)
      · rintro e w s' hfailed _ ⟨⟩
        exact hfailed
  obtain ⟨hvetted, hwanting⟩ := Program.run_of_wp hwp hrun e rfl
  exact accepts_of_wanting hopening hvetted hwanting hlegible

end Calls

end Cursor

end AqlClient
