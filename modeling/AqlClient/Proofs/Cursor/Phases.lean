import AqlClient.Proofs.Cursor.Delivery
import AqlClient.Proofs.Cursor.Failing
import AqlClient.Proofs.Cursor.Sharing

/-!
# The phases of a cursor

What the phase of a cursor says about the rest of its state (`Ledger.Phased`), and which phase may
follow which (`Phase.Follows`): a cursor that is exhausted never reopens, and one that is closed
stays closed. Taken alone, the arrival of a batch that announces more would reopen an exhausted
cursor. That it cannot arrive there is in the rules of a watch (`Ledger.Fits`), so that both are
invariants of the books (`Cursor.InPhase`), also where the arrival of a batch ends half-way.

A batch can be asked for only by the name of the cursor on the server. A live cursor has one, and
fetches are made for live cursors only, so that no use of a cursor ends for the lack of a name
(`Cursor.Upkeep` for the failures other than `Failure.noCursorId`).
-/

namespace AqlClient

variable {α β : Type} {c : Cursor α}

/-! ### The books -/

/-- Which phases may follow a phase, at once or later. -/
structure Phase.Follows (later earlier : Phase) : Prop where
  exhausted : earlier = .exhausted → later = .exhausted ∨ later = .closed
  closed : earlier = .closed → later = .closed

theorem Phase.Follows.refl (p : Phase) : p.Follows p := ⟨.inl, id⟩

theorem Phase.Follows.trans {p q r : Phase} (h : r.Follows q) (h' : q.Follows p) :
    r.Follows p where
  exhausted hp := by
    obtain hq | hq := h'.exhausted hp
    · exact h.exhausted hq
    · exact .inr (h.closed hq)
  closed hp := h.closed (h'.closed hp)

namespace Ledger

/-- **What the phase of a cursor says about it.** -/
structure Phased (mode : Mode) (L : Ledger) : Prop where
  live : L.state.phase = .live → L.state.cursorId.isSome = true ∧ L.state.hasMore = true
  exhausted : L.state.phase = .exhausted → L.state.hasMore = false
  closed : mode = .blocking → L.state.phase = .closed → L.state.buffer = []

variable {L : Ledger} {mode : Mode}

/-- A change that fits does not lead back. -/
theorem follows_note {change : CursorChange} (hfit : L.Fits mode change) :
    (L.note change).state.phase.Follows L.state.phase := by
  cases change with
  | received b => exact .refl _
  | settled b =>
    refine ⟨fun hp => absurd hp hfit.2, fun hp => ?_⟩
    exact CursorState.settled_of_closed hp b
  | taken number => exact .refl _
  | closed => exact ⟨fun _ => .inr rfl, fun _ => rfl⟩
  | fetching on => exact .refl _

/-- A batch arrives at a cursor that is live, or closed meanwhile. -/
theorem Phased.receive (h : L.Phased mode) {b : Batch} (hfit : L.Awaits mode) :
    (L.note (.received b)).Phased mode where
  live hp := by
    obtain ⟨hid, hmore⟩ := h.live hp
    refine ⟨?_, hmore⟩
    show (b.cursorId.or L.state.cursorId).isSome = true
    rw [Option.isSome_or, hid, Bool.or_true]
  exhausted hp := h.exhausted hp
  closed hblocking hp := by
    have hlive : L.state.phase = .live := hfit.blocking hblocking
    have hclosed : L.state.phase = .closed := hp
    rw [hlive] at hclosed
    cases hclosed

/-- Once a batch is settled, the phase is the one that it announces, unless the cursor is closed. -/
theorem Phased.settle (h : L.Phased mode) {b : Batch} (hfit : L.Fits mode (.settled b)) :
    (L.note (.settled b)).Phased mode := by
  cases hp : L.state.phase with
  | exhausted => exact absurd hp hfit.2
  | closed =>
    have hphase : (L.note (.settled b)).state.phase = .closed := CursorState.settled_of_closed hp b
    refine ⟨fun hlive => ?_, fun hexhausted => ?_, fun hblocking _ => h.closed hblocking hp⟩
    · rw [hphase] at hlive
      cases hlive
    · rw [hphase] at hexhausted
      cases hexhausted
  | live =>
    have hopen : L.state.phase ≠ .closed := fun hclosed => Phase.noConfusion (hp.symm.trans hclosed)
    have hphase : (L.note (.settled b)).state.phase = if b.hasMore then .live else .exhausted :=
      CursorState.settled_of_open hopen b
    cases hm : b.hasMore with
    | true =>
      rw [hm] at hphase
      refine ⟨fun _ => ⟨(h.live hp).1, hm⟩, fun hexhausted => ?_, fun _ hclosed => ?_⟩
      · exact Phase.noConfusion (hphase.symm.trans hexhausted)
      · exact Phase.noConfusion (hphase.symm.trans hclosed)
    | false =>
      rw [hm] at hphase
      refine ⟨fun hlive => ?_, fun _ => hm, fun _ hclosed => ?_⟩
      · exact Phase.noConfusion (hphase.symm.trans hlive)
      · exact Phase.noConfusion (hphase.symm.trans hclosed)

/-- **A change that fits keeps what the phase says.** -/
theorem Phased.note (h : L.Phased mode) {change : CursorChange} (hfit : L.Fits mode change) :
    (L.note change).Phased mode := by
  cases change with
  | received b => exact h.receive hfit
  | settled b => exact h.settle hfit
  | taken number =>
    refine ⟨h.live, h.exhausted, fun hblocking hp => ?_⟩
    show L.state.buffer.drop number = []
    rw [h.closed hblocking hp, List.drop_nil]
  | closed => exact ⟨fun hp => Phase.noConfusion hp, fun hp => Phase.noConfusion hp, fun _ _ => rfl⟩
  | fetching on => exact ⟨h.live, h.exhausted, h.closed⟩

end Ledger

/-! ### What a batch says -/

/-- What two steps come to, one after the other. -/
theorem bind_ok {x : Except Failure α} {f : α → Except Failure β} {b : β}
    (h : (x >>= f) = .ok b) : ∃ a, x = .ok a ∧ f a = .ok b := by
  cases x with
  | error e => cases h
  | ok a => exact ⟨a, rfl, h⟩

/-- A batch that announces more names the cursor. -/
theorem Batch.isSome_of_hasMore {envelope : Entries} {b : Batch}
    (h : Batch.ofEnvelope envelope = .ok b) (hmore : b.hasMore = true) :
    b.cursorId.isSome = true := by
  unfold ofEnvelope at h
  obtain ⟨results, -, h⟩ := bind_ok h
  obtain ⟨more, -, h⟩ := bind_ok h
  obtain ⟨id, -, h⟩ := bind_ok h
  dsimp only at h
  split at h
  case isTrue => cases h
  case isFalse hnamed =>
    obtain ⟨count, -, h⟩ := bind_ok h
    obtain ⟨extra, -, h⟩ := bind_ok h
    obtain ⟨cached, -, h⟩ := bind_ok h
    cases h
    obtain rfl : more = true := hmore
    rw [Bool.true_and, Option.isNone_iff_eq_none] at hnamed
    exact Option.isSome_iff_ne_none.2 hnamed

/-- The first batch of a query names the cursor, if it announces more. -/
theorem QueryService.named_of_submit {service : QueryService} {query : Query} {limit : TimeLimit}
    {first : Batch} {s s' : Scene} (h : (service.submit query limit).run s = (.ok first, s')) :
    first.hasMore = true → first.cursorId.isSome = true := by
  obtain ⟨_, _, -, h⟩ := Program.run_bind_ok h
  obtain ⟨envelope, _, -, h⟩ := Program.run_bind_ok h
  obtain ⟨_, _, -, h⟩ := Program.run_bind_ok h
  exact Batch.isSome_of_hasMore (congrArg Prod.fst h)

/-- **The cursor of a query is fresh,** and its first batch names it if it announces more. -/
theorem Database.cursor_named {d : Database} {q : Query} {mapper : Mapper α}
    {request timeout : Option Int} {s s₁ : Scene} {c : Cursor α}
    (h : (d.cursor q mapper request timeout).run s = (.ok c, s₁)) :
    c.service = d.service ∧ c.mapper = mapper ∧
      ∃ first, c.Fresh first s₁ ∧ (first.hasMore = true → first.cursorId.isSome = true) := by
  obtain ⟨first, s₀, hsubmit, hopened⟩ := Program.run_bind_ok h
  obtain ⟨hservice, hmapper, hfresh⟩ := Cursor.fresh_of_opened hopened
  exact ⟨hservice, hmapper, first, hfresh, QueryService.named_of_submit hsubmit⟩

/-- The books on a cursor whose first batch names it, if it announces more. -/
theorem Ledger.opened_phased {first : Batch} (mode : Mode)
    (hfirst : first.hasMore = true → first.cursorId.isSome = true) :
    (Ledger.opened first).Phased mode := by
  have hphase : (Ledger.opened first).state.phase =
      if first.hasMore then .live else .exhausted := rfl
  have hid : (Ledger.opened first).state.cursorId = first.cursorId := Option.or_none
  have hmore : (Ledger.opened first).state.hasMore = first.hasMore := rfl
  cases hm : first.hasMore with
  | true =>
    rw [hm] at hphase hmore
    refine ⟨fun _ => ⟨hid ▸ hfirst hm, hmore⟩, fun hp => ?_, fun _ hp => ?_⟩
    · exact Phase.noConfusion (hphase.symm.trans hp)
    · exact Phase.noConfusion (hphase.symm.trans hp)
  | false =>
    rw [hm] at hphase hmore
    refine ⟨fun hp => ?_, fun _ => hmore, fun _ hp => ?_⟩
    · exact Phase.noConfusion (hphase.symm.trans hp)
    · exact Phase.noConfusion (hphase.symm.trans hp)

/-! ### The course of a cursor -/

/-- **The phases of a cursor are in order** from some point of the history on. -/
structure Cursor.InPhase (c : Cursor α) (past : List Event) (s : Scene) : Prop where
  /-- The state of the cursor is the one in the books. -/
  state : s.cursors c.ref = (Ledger.of c.ref s.history).state
  /-- At any point, also in between, the phase says what it should. -/
  phased : ∀ h, past <+: h → h <+: s.history → (Ledger.of c.ref h).Phased c.service.mode
  /-- Of any two points, the later phase may follow the earlier one. -/
  follows : ∀ h h', past <+: h → h <+: h' → h' <+: s.history →
    (Ledger.of c.ref h').state.phase.Follows (Ledger.of c.ref h).state.phase

namespace Watch

variable {W : Watch c} {L : Ledger} {events : List Event} {s : Scene}

theorem Lawful.phased (hL : L.Phased c.service.mode) (h : W.Lawful L events) :
    (L.through c.ref events).Phased c.service.mode :=
  h.invariant hL (fun _ hL => ⟨hL.live, hL.exhausted, hL.closed⟩) fun _ _ hL _ hfit => hL.note hfit

theorem Lawful.follows (h : W.Lawful L events) :
    (L.through c.ref events).state.phase.Follows L.state.phase :=
  h.invariant (P := fun M => M.state.phase.Follows L.state.phase) (.refl _) (fun _ hM => hM)
    fun _ _ hM _ hfit => (Ledger.follows_note hfit).trans hM

/-- **Under the rules the phases are in order.** -/
theorem Course.inPhase (h : W.Course L s) (hopening : W.opening = Ledger.of c.ref W.past)
    (hphased : W.opening.Phased c.service.mode) : c.InPhase W.past s where
  state := by
    rw [h.books hopening]
    exact h.state
  phased history hpast hhistory := by
    obtain ⟨events, more, -, hlaw, hbooks, -⟩ := h.split hopening hpast hhistory
    rw [hbooks]
    exact hlaw.phased hphased
  follows earlier later hpast hlater hhistory := by
    obtain ⟨events, more, hs, -, -, hlaw⟩ :=
      h.split hopening hpast (hlater.trans hhistory)
    obtain ⟨between, rfl⟩ := hlater
    obtain ⟨rest, hrest⟩ := hhistory
    rw [hs, List.append_assoc] at hrest
    rw [← List.append_cancel_left hrest, lawful_append] at hlaw
    rw [Ledger.of_append]
    exact hlaw.1.follows

end Watch

/-! ### Failures for the lack of a name -/

/-- A program never ends with a failure unless an exchange has. -/
def Program.Shuns (e : Failure) : Program α → Prop
  | .done r => r ≠ .error e
  | .look next => ∀ s, (next s).Shuns e
  | .act _ next => next.Shuns e
  | .exchange _ next => ∀ reply, reply ≠ .error e → (next reply).Shuns e

theorem Program.Shuns.wp {e : Failure} {p : Program α} (h : p.Shuns e) (s : Scene) :
    p.wp (.hostile (fun _ => True) (· ≠ e)) (fun r _ _ => r ≠ .error e) () s := by
  induction p generalizing s with
  | done r => exact h
  | look next ih => exact ih s (h s) s
  | act change next ih => exact ih h _
  | exchange q next ih =>
    refine ⟨trivial, fun w reply s' hback => ih reply (h reply fun he => ?_) s'⟩
    exact hback e he rfl

/-- No exchange fails for the lack of a name. -/
theorem Scene.Answers.ne_noCursorId {s : Scene} {q : Request}
    {reply : Except Failure Response} (h : s.Answers q reply) :
    ∀ e, reply = .error e → e ≠ .noCursorId := by
  rintro e rfl
  obtain hreply | hcancelled := h
  · unfold Playback.reply at hreply
    split at hreply
    · cases hreply
    · cases hreply
      exact Failure.noConfusion
    · cases hreply
      exact Failure.noConfusion
    · cases hreply
      exact Failure.noConfusion
  · cases hcancelled
    exact Failure.noConfusion

/-- A mapper does not fail for the lack of a name either. -/
theorem Mapper.convert_ne_noCursorId {mapper : Mapper α} {offset : Int} {raw : List Value}
    {e : Failure} (h : mapper.convert offset raw = .error e) : e ≠ .noCursorId := by
  obtain ⟨index, item, fault, rfl⟩ := fault_of_convert h
  cases fault with
  | rejected reason => exact Failure.noConfusion
  | aborted reason => exact Failure.noConfusion

namespace Cursor

variable {W : Watch c} {D : Discipline Bool}

/-- What fails as expected does not fail for the lack of a name, if that is not expected. -/
theorem Expected.ne_noCursorId {r : Except Failure β} (h : Expected (· ≠ .noCursorId) r) :
    ∀ e, r = .error e → e ≠ .noCursorId := by
  rintro e rfl rfl
  obtain hclient | hne := h _ rfl
  · cases hclient
  · exact hne rfl

/-- A program that keeps the watch and never fails for the lack of a name, whatever happens at its
exchanges. -/
theorem wp_kept_of_hostile (hhonest : D.Honest) {p : Program β} {w : Bool} {s : Scene}
    (hquiet : p.wp D (fun _ w s => W.Quiet w s) w s)
    (hnamed : p.wp (.hostile (fun _ => True) (· ≠ .noCursorId))
      (fun r _ _ => ∀ e, r = .error e → e ≠ .noCursorId) () s) :
    p.wp D (Program.Kept W.Quiet (· ≠ .noCursorId)) w s :=
  Program.wp_and (fun _ _ _ _ _ _ hback => (hhonest hback).2.ne_noCursorId) hquiet hnamed

variable (hD : W.Hosts D) (hhonest : D.Honest)

include hD hhonest

/-- **No operation of a cursor fails for the lack of a name:** fetches are made for live cursors
only. -/
theorem upkeep_named (hW : W.Receptive) (hphased : W.opening.Phased c.service.mode) :
    c.Upkeep D W.Quiet (· ≠ .noCursorId) where
  logless _ _ level text h := h.record level text
  fetchNext deadline w s h hneeds := by
    have hid : (s.cursors c.ref).cursorId.isSome = true := by
      obtain ⟨L, hL, -, -⟩ := h
      obtain ⟨events, -, hlaw, rfl⟩ := hL.events
      rw [hL.state] at hneeds ⊢
      exact ((hlaw.phased hphased).live (needsFetch_iff.1 hneeds).2).1
    refine wp_kept_of_hostile hhonest (wp_fetchNext_quiet hD hW deadline h hneeds) ?_
    refine Program.wp_mono (wp_fetchNext_expected (fun _ _ => Failure.noConfusion)
      Failure.noConfusion (fun _ _ _ => trivial) deadline hid) fun r _ _ hr => hr.ne_noCursorId
  close w s h := by
    refine wp_kept_of_hostile hhonest (keeps_close hD hW h) ?_
    exact Program.wp_mono (wp_close_expected (fun _ _ => Failure.noConfusion)
      fun _ _ _ => trivial) fun r _ _ hr => hr.ne_noCursorId
  closed := Failure.noConfusion
  wrongType := Failure.noConfusion

/-- The functions that are called on items leave the cursor alone, and never fail for the lack of a
name themselves. -/
def Use.Clear (c : Cursor α) : Use α → Prop
  | .forEach visit _ _ => ∀ a, c.Apart (visit a) ∧ (visit a).Shuns .noCursorId
  | _ => True

/-- **No use of a cursor ends for the lack of a name.** -/
theorem Use.upholds_perform (hfree : W.Free) (hphased : W.opening.Phased c.service.mode)
    (hmine : ∀ q, W.mine q = true → c.concerns q = true) (hkept : ∀ k, W.kept k = none)
    (slot : Nat) (shown : α → Value) {u : Use α} (hu : u.Clear c) :
    (u.perform c slot shown).Upholds D W.Quiet (· ≠ .noCursorId) := by
  have hkeep := upkeep_named hD hhonest hfree.receptive hphased
  have hhand : ∀ number, (c.handOut number).Upholds D W.Quiet (· ≠ .noCursorId) := by
    intro number w s h
    have hquiet := keeps_handOut (D := D) hfree number h
    rw [wp_handOut] at hquiet ⊢
    split at hquiet
    · exact Program.kept_ok hquiet
    case h_2 e he => exact Program.kept_error hquiet (Mapper.convert_ne_noCursorId he)
  cases u with
  | next => exact Program.upholds_bind (hkeep.next hhand) fun _ => Program.upholds_pure _
  | nextBatch =>
    exact Program.upholds_bind (hkeep.nextBatch hhand) fun _ => Program.upholds_pure _
  | hasNext => exact Program.upholds_bind hkeep.hasNext fun _ => Program.upholds_pure _
  | close => exact Program.upholds_bind hkeep.close fun _ => Program.upholds_pure _
  | toList general timeout =>
    exact Program.upholds_bind (hkeep.toList hhand general timeout) fun _ =>
      Program.upholds_pure _
  | forEach visit general timeout =>
    refine Program.upholds_bind (hkeep.forEach ?_ hhand general timeout) fun _ =>
      Program.upholds_pure _
    intro a w s h
    -- the call is noted in a journal first
    have hnoted : c.Apart (noting slot shown visit a) := ⟨id, (hu a).1⟩
    have hshuns : (noting slot shown visit a).Shuns .noCursorId := (hu a).2
    refine wp_kept_of_hostile hhonest ?_ ?_
    · exact hD.keeps_apart hmine hkept hnoted h
    · refine Program.wp_mono (hshuns.wp s) ?_
      rintro r _ _ hr _ rfl rfl
      exact hr rfl

omit hD hhonest

/-! ### Cursors that are made from an envelope -/

variable {service : QueryService} {mapper : Mapper α} {requestLimit overallLimit : Value}
  {first : Batch} {envelope : Entries} {s₀ s₁ : Scene}

/-- **The phases of a cursor are in order,** whatever a caller does with it on its own, and
whatever tasks do that share it. A live cursor has a name and has been told of more, an exhausted
one has been told that there is no more, and a blocking one that is closed holds no items. An
exhausted cursor never reopens, and a closed one stays closed. No use of the cursor ends for the
lack of a name. -/
theorem opened_inPhase (hfirst : Batch.ofEnvelope envelope = .ok first)
    (hopen : (opened service mapper requestLimit overallLimit first).run s₀ = (.ok c, s₁)) :
    (∀ {γ : Type} {p : Program γ}, c.Client p →
      c.InPhase s₁.history (p.run s₁).2 ∧
      ∀ slot shown (u : Use α), u.Clear c →
        ((u.perform c slot shown).run (p.run s₁).2).1 ≠ .error .noCursorId) ∧
    (service.mode = .async → ∀ {γ : Type} {p : TaskPool γ}, p.Reaches c.Joins s₁ →
      c.InPhase s₁.history p.scene ∧
      ∀ slot shown (u : Use α) (answer : Answer α → γ) later, u.Clear c →
        (p.spawn (do return answer (← u.perform c slot shown))).2.Leads c.Joins later →
          later.outcome? p.spawned ≠ some (.error .noCursorId)) := by
  obtain ⟨hservice, -, hfresh⟩ := fresh_of_opened hopen
  let W := Watch.sinceMaking c c.concerns first s₁.history
  have hfree : W.Free := fun _ => trivial
  have hmine : ∀ q, W.mine q = true → c.concerns q = true := fun _ hq => hq
  have hkept : ∀ k, W.kept k = none := fun _ => rfl
  have hbooks : W.opening = Ledger.of c.ref W.past := hfresh.books.symm
  have hphased : W.opening.Phased c.service.mode :=
    Ledger.opened_phased c.service.mode (Batch.isSome_of_hasMore hfirst)
  constructor
  · intro γ p hp
    have hquiet : W.Quiet false (p.run s₁).2 :=
      hp.run_quiet (hfresh.quiet c.concerns) hfree rfl hkept
    constructor
    · obtain ⟨L, hL, -, -⟩ := hquiet
      exact hL.inPhase hbooks hphased
    · intro slot shown u hu he
      have hend := (Program.wp_alone _).1 (Use.upholds_perform W.hosts_alone
        Discipline.honest_alone hfree hphased hmine hkept slot shown hu hquiet)
      exact hend.2 _ he rfl
  · intro hmode γ p hp
    rw [← hservice] at hmode
    have hhosts : W.Hosts W.sharing.faithful :=
      Watch.hosts_faithful hmode fun id limit body => c.concerns_request "PUT" id limit body
    constructor
    · obtain ⟨w, ⟨L, hL, -, -⟩, -, -⟩ := hfresh.orderly hmode hp
      exact hL.inPhase hbooks hphased
    · intro slot shown u answer later hu hlater he
      have hprogram : (do return answer (← u.perform c slot shown) : Program γ).Upholds
          W.sharing.faithful W.Quiet (· ≠ .noCursorId) :=
        Program.upholds_bind (Use.upholds_perform hhosts W.sharing.honest_faithful hfree hphased
          hmine hkept slot shown hu) fun a => Program.upholds_pure (answer a)
      obtain ⟨s, -, hne⟩ := hfresh.ended hmode hp (fun w hquiet => hprogram hquiet) hlater he
      exact hne _ rfl rfl

/-- A cursor is read to some point and a function is called on the rest. The same cursor may be
closed by one task while another one looks for an item. -/
theorem opened_inPhase_specimen : ∃ c s₁ envelope,
    Batch.ofEnvelope envelope = .ok Batch.specimen ∧
    (opened (Database.specimen .async).service Mapper.raw .null .null Batch.specimen).run
      Scene.specimen = (.ok c, s₁) ∧
    (Database.specimen .async).service.mode = .async ∧
    (let p : Program Bool := do
        let _ ← c.nextBatch
        c.hasNext
      c.Client p ∧ (Use.forEach (fun _ => pure true) none none).Clear c ∧
      c.InPhase s₁.history (p.run s₁).2 ∧
      (((Use.forEach (fun _ => pure true) none none).perform c 0 id).run (p.run s₁).2).1 ≠
        .error .noCursorId) ∧
    (let p : TaskPool Bool := ((TaskPool.start s₁).spawn c.hasNext).2
      let later := (p.spawn (do let _ ← Use.close.perform c 0 id; return false)).2
      p.Reaches c.Joins s₁ ∧ c.InPhase s₁.history p.scene ∧
        later.outcome? p.spawned ≠ some (.error .noCursorId)) := by
  obtain ⟨c, s₁, hopen⟩ := opened_specimen .async Scene.specimen
  let envelope : Entries := [(.str "result", .list [.int 1, .int 2, .int 3]),
    (.str "hasMore", .bool true), (.str "id", .str "7")]
  have hfirst : Batch.ofEnvelope envelope = .ok Batch.specimen := rfl
  obtain ⟨halone, hshared⟩ := opened_inPhase hfirst hopen
  refine ⟨c, s₁, envelope, hfirst, hopen, rfl, ?_, ?_⟩
  · intro p
    have hp : c.Client p := .bind .nextBatch fun _ => .hasNext
    have hclear : (Use.forEach (fun _ => pure true) none none).Clear c := fun _ => ⟨trivial, nofun⟩
    exact ⟨hp, hclear, (halone hp).1, (halone hp).2 0 id _ hclear⟩
  · intro p later
    have hp : p.Reaches c.Joins s₁ := .spawn .start .hasNext
    have hphases := hshared rfl hp
    exact ⟨hp, hphases.1, hphases.2 0 id .close (fun _ => false) later trivial .refl⟩

end Cursor

end AqlClient
