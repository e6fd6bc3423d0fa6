import AqlClient.Proofs.Cursor.Closure

/-!
# Complete lists

When the list of all that is left of a cursor is returned, the cursor is closed behind it. Right
before, everything that had arrived had been handed out, and if nobody had closed the cursor since
the list was begun, the server had said that there was no more (`Cursor.Completed`). So the list is
cut short without a word only if the cursor is closed in between, by another task or by a method
that is refused and closes the cursor behind itself (`Cursor.toList_complete`,
`Cursor.toList_truncated`).

The loop of a list ends when the cursor is not live any more. That it does not end for a lack of
rounds instead is shown by a variant: in each round a fetch gets a batch, which uses up some of the
script (`Program.wp_shorter`), and there are more rounds than the script has outcomes.
-/

namespace AqlClient

variable {α β : Type} {c : Cursor α}

/-! ### The rounds of a list -/

namespace Watch

/-- A quiet scene in which everything that has arrived has been handed out. -/
def Emptied (W : Watch c) (flag : Bool) (s : Scene) : Prop :=
  ∃ L, W.Course L s ∧ L.Level ∧ L.state.fetching = flag ∧ L.state.buffer = [] ∧ L.taken = L.items

variable {W : Watch c} {w : Bool} {s : Scene}

theorem Emptied.quiet (h : W.Emptied w s) : W.Quiet w s := by
  obtain ⟨L, hL, hlevel, hw, -, -⟩ := h
  exact ⟨L, hL, hlevel, hw⟩

theorem Emptied.buffer (h : W.Emptied w s) : (s.cursors c.ref).buffer = [] := by
  obtain ⟨L, hL, -, -, hbuffer, -⟩ := h
  rw [hL.state]
  exact hbuffer

/-- Unless the cursor is closed, nothing is missing. -/
theorem Quiet.whole (h : W.Quiet w s) (hopen : (s.cursors c.ref).phase ≠ .closed) :
    W.Whole w s := by
  obtain ⟨L, hL, hlevel, hw⟩ := h
  rw [hL.state] at hopen
  exact ⟨L, hL, hlevel, hw, hL.sound.whole hopen⟩

/-- Where nothing is missing, handing out the whole buffer hands out everything that is left. -/
theorem Whole.drained (h : W.Whole w s) (hfree : W.Free) :
    W.Emptied w (s.changeCursor c.ref (.taken (s.cursors c.ref).buffer.length)) := by
  obtain ⟨L, hL, hlevel, hw, hwhole⟩ := h
  refine ⟨_, hL.change (hfree _) trivial, hlevel, hw, ?_, ?_⟩
  · show L.state.buffer.drop (s.cursors c.ref).buffer.length = []
    rw [hL.state]
    exact List.drop_length
  · show L.taken ++ L.state.buffer.take (s.cursors c.ref).buffer.length = L.items
    rw [hL.state, List.take_length]
    exact hwhole

end Watch

namespace Cursor

variable {W : Watch c} {D : Discipline Bool} {w : Bool} {s : Scene}

/-- Everything that is left is handed out, or nothing is if it cannot be converted. -/
theorem wp_drain_whole (hfree : W.Free) (h : W.Whole w s) {f : List α → Program β}
    {Q : Except Failure β → Bool → Scene → Prop}
    (hok : ∀ items s', W.Emptied w s' → s'.script = s.script → (f items).wp D Q w s')
    (herror : ∀ e, Q (.error e) w s) : (c.drain >>= f).wp D Q w s := by
  rw [Program.wp_bind, wp_drain, wp_handOut]
  split
  case h_1 items _ => exact hok items _ (h.drained hfree) rfl
  case h_2 e _ => exact herror e

/-- How reading all that is left ends: unless it fails, everything that has arrived has been handed
out, and the cursor is not live any more. -/
def ReadOut (W : Watch c) (r : Except Failure β) (w : Bool) (s : Scene) : Prop :=
  W.Quiet w s ∧ ∀ b, r = .ok b → W.Emptied w s ∧ (s.cursors c.ref).phase ≠ .live

theorem ReadOut.error {e : Failure} (h : W.Quiet w s) :
    ReadOut W (.error e : Except Failure β) w s :=
  ⟨h, fun _ he => nomatch he⟩

variable (hD : W.Hosts D) (hhonest : D.Honest) (hfree : W.Free)

include hD hhonest hfree

/-- **A list goes on until the cursor is not live any more,** if there are more rounds than the
script has outcomes. -/
theorem wp_collect_readOut (d : Deadline) {rounds : Nat} (h : W.Emptied w s)
    (hrounds : s.script.length < rounds) :
    (c.collect d rounds).wp D (ReadOut W) w s := by
  induction rounds generalizing w s with
  | zero => exact absurd hrounds (Nat.not_lt_zero _)
  | succ n ih =>
    unfold collect
    rw [wp_look]
    split
    case isFalse hlive => exact ⟨h.quiet, fun _ _ => ⟨h, hlive⟩⟩
    case isTrue hlive =>
      have hneeds : (s.cursors c.ref).needsFetch = true := needsFetch_iff.2 ⟨h.buffer, hlive⟩
      have hfetch := Program.wp_and hhonest
        (wp_fetchNext hD hfree.receptive (some d) h.quiet hneeds)
        (Program.wp_shorter (wp_fetchNext_dead (some d)) (.refl s))
      refine Program.wp_seq hfetch ?_ fun e w s' hfailed => .error hfailed.1
      -- the batch has used up some of the script, so that there are still enough rounds
      rintro ⟨⟩ w s' ⟨hwhole, hshorter⟩
      have hleft : s'.script.length < n := by
        have := hshorter () rfl
        omega
      refine wp_drain_whole hfree hwhole ?_ fun e => .error hwhole.quiet
      intro items s'' hempty hscript
      refine Program.wp_seq (ih hempty (by rw [hscript]; exact hleft)) ?_ fun e w s hfailed =>
        .error hfailed.1
      exact fun rest w s hread => ⟨hread.1, fun _ _ => hread.2 rest rfl⟩

/-- All that is left is read out, if nothing is missing to begin with. -/
theorem wp_remainder_readOut (d : Deadline) (h : W.Whole w s) :
    (c.remainder d).wp D (ReadOut W) w s := by
  refine wp_drain_whole hfree h (fun items s' hempty _ => ?_) fun e => .error h.quiet
  rw [Program.wp_view_bind]
  refine Program.wp_seq (wp_collect_readOut hD hhonest hfree d hempty
    (Nat.lt_add_of_pos_right (by decide))) ?_ fun e w s hfailed => .error hfailed.1
  exact fun rest w s hread => ⟨hread.1, fun _ _ => hread.2 rest rfl⟩

/-! ### Lists -/

/-- What can be said behind a list, from which point of the history to which it was made. -/
def Completed (c : Cursor α) (past history : List Event) : Prop :=
  ∃ during after, history = past ++ during ++ .cursor c.ref .closed :: after ∧
    (Ledger.of c.ref (past ++ during)).taken = (Ledger.of c.ref (past ++ during)).items ∧
    (Event.cursor c.ref .closed ∉ during →
      (Ledger.of c.ref (past ++ during)).state.hasMore = false ∧
      ((∀ b ∈ (Ledger.of c.ref (past ++ during)).arrived, b.Legible) →
        (Ledger.of c.ref (past ++ during)).arrived.getLast?.map Batch.hasMore = some false))

omit hD hhonest hfree in
/-- Where everything has been read out, a list that was begun before is complete once the cursor is
closed. -/
theorem completed_of_readOut (hopening : W.opening = Ledger.of c.ref W.past)
    (hphased : W.opening.Phased c.service.mode) {s₀ s' : Scene} (hstart : W.Quiet w s₀)
    (hopen : (s₀.cursors c.ref).phase ≠ .closed) (hbefore : s₀.Before s) {w' : Bool}
    (hempty : W.Emptied w' s) (hlive : (s.cursors c.ref).phase ≠ .live)
    (hclosed : (s.changeCursor c.ref .closed).Before s') :
    c.Completed s₀.history s'.history := by
  obtain ⟨during, hduring⟩ := hbefore.history
  obtain ⟨after, hafter⟩ := hclosed.history
  obtain ⟨L₀, hL₀, -, -⟩ := hstart
  obtain ⟨L, hL, hlevel, -, -, htaken⟩ := hempty
  have hbooks : Ledger.of c.ref (s₀.history ++ during) = L := by
    rw [hduring]
    exact hL.books hopening
  refine ⟨during, after, ?_, ?_, fun hnone => ?_⟩
  · rw [← hafter, hduring]
    exact List.append_assoc s.history [_] after
  · rw [hbooks]
    exact htaken
  · -- nobody has closed it, so that it is exhausted
    have hphase : L.state.phase = .exhausted := by
      have hstill : L.state.phase ≠ .closed := by
        rw [← hbooks, Ledger.of_append, hL₀.books hopening]
        refine Ledger.not_closed_through ?_ hnone
        rw [← hL₀.state]
        exact hopen
      rw [hL.state] at hlive
      cases hp : L.state.phase with
      | live => exact absurd hp hlive
      | exhausted => rfl
      | closed => exact absurd hp hstill
    have hmore : L.state.hasMore = false := by
      obtain ⟨events, -, hlaw, rfl⟩ := hL.events
      exact (hlaw.phased hphased).exhausted hphase
    rw [hbooks]
    refine ⟨hmore, fun hlegible => ?_⟩
    rw [← hlevel hlegible, hL.sound.latest, hmore]

/-- Closing a cursor remembers that at once. -/
theorem wp_close_before (h : W.Quiet w s) :
    c.close.wp D (fun _ w s' => W.Quiet w s' ∧ (s.changeCursor c.ref .closed).Before s') w s := by
  refine Program.wp_and hhonest (keeps_close hD hfree.receptive h) ?_
  unfold close
  rw [wp_look, wp_update]
  exact Program.wp_before _ (.refl _)

/-- **A list that is returned is complete** unless the cursor was closed meanwhile. -/
theorem wp_toListWithin_completed (hopening : W.opening = Ledger.of c.ref W.past)
    (hphased : W.opening.Phased c.service.mode) (limit : Value) (h : W.Quiet w s) :
    (c.toListWithin limit).wp D (fun r w s' => W.Quiet w s' ∧ ∀ items, r = .ok items →
      c.Completed s.history s'.history) w s := by
  unfold toListWithin
  rw [Program.wp_bind, wp_deadline]
  split
  case isTrue => exact ⟨h, fun _ he => nomatch he⟩
  case isFalse hopen =>
    cases Deadline.starting s.now limit (some generalTimeoutLabel) with
    | error e => exact ⟨h, fun _ he => nomatch he⟩
    | ok d =>
      rw [Program.chain_ok]
      have hread : (c.remainder d).wp D (ReadOut W) w s :=
        wp_remainder_readOut hD hhonest hfree d (h.whole hopen)
      unfold closing
      rw [Program.wp_attempt_bind]
      refine Program.wp_mono
        (Program.wp_and hhonest hread (Program.wp_before _ (.refl s))) ?_
      rintro r w' s' ⟨hr, hbefore⟩
      cases r with
      | ok items =>
        obtain ⟨hempty, hlive⟩ := hr.2 items rfl
        refine Program.wp_seq (wp_close_before hD hhonest hfree hr.1) ?_
          fun e w s hfailed => ⟨hfailed.1, fun _ he => nomatch he⟩
        rintro ⟨⟩ w'' s'' ⟨hquiet, hclosed⟩
        exact ⟨hquiet, fun _ _ =>
          completed_of_readOut hopening hphased h hopen hbefore hempty hlive hclosed⟩
      | error e =>
        refine Program.wp_seq (keeps_closeAfterFailure hD hfree.receptive hr.1) ?_ ?_
        · exact fun _ w s hquiet => ⟨hquiet, fun _ he => nomatch he⟩
        · exact fun _ w s hquiet => ⟨hquiet, fun _ he => nomatch he⟩

omit hD hhonest hfree

/-- What can be said behind a list can be said later on, too. -/
theorem Completed.later {past history history' : List Event} (h : c.Completed past history)
    (hlater : history <+: history') : c.Completed past history' := by
  obtain ⟨during, after, rfl, hrest⟩ := h
  obtain ⟨more, rfl⟩ := hlater
  refine ⟨during, after ++ more, ?_, hrest⟩
  rw [List.append_assoc, List.cons_append]

variable {service : QueryService} {mapper : Mapper α} {requestLimit overallLimit : Value}
  {first : Batch} {envelope : Entries} {s₀ s₁ : Scene}

/-- **A list that is returned is complete, unless the cursor was closed meanwhile.** A task reads
all that is left of a cursor, while others do with it what they like. If the list is returned, then
everything that had arrived when the cursor was closed behind it had been handed out; and if
nobody had closed it before, the latest batch had announced that there was no more. -/
theorem toList_complete (hfirst : Batch.ofEnvelope envelope = .ok first)
    (hopen : (opened service mapper requestLimit overallLimit first).run s₀ = (.ok c, s₁))
    (hmode : service.mode = .async) {p later : TaskPool β} (hp : p.Reaches c.Joins s₁)
    (general timeout : Option Int) (answer : List α → β)
    (hlater : (p.spawn (do return answer (← c.toList general timeout))).2.Leads c.Joins later)
    {b : β} (hend : later.outcome? p.spawned = some (.ok b)) :
    c.Completed p.scene.history later.scene.history := by
  obtain ⟨hservice, -, hfresh⟩ := fresh_of_opened hopen
  rw [← hservice] at hmode
  let W := Watch.sinceMaking c c.concerns first s₁.history
  have hhosts : W.Hosts W.sharing.faithful :=
    Watch.hosts_faithful hmode fun id limit body => c.concerns_request "PUT" id limit body
  have hphased : W.opening.Phased c.service.mode :=
    Ledger.opened_phased c.service.mode (Batch.isSome_of_hasMore hfirst)
  have hprogram : ∀ w, W.Quiet w p.scene →
      (do return answer (← c.toList general timeout) : Program β).wp W.sharing.faithful
        (fun r w s => W.Quiet w s ∧ ∀ b, r = .ok b → c.Completed p.scene.history s.history)
        w p.scene := by
    intro w hquiet
    refine Program.wp_seq (wp_toListWithin_completed hhosts W.sharing.honest_faithful
      (fun _ => trivial) hfresh.books.symm hphased _ hquiet) ?_ ?_
    · exact fun items w s h => ⟨h.1, fun _ _ => h.2 items rfl⟩
    · exact fun e w s h => ⟨h.1, fun _ he => nomatch he⟩
  obtain ⟨s, hbefore, hcompleted⟩ := hfresh.ended hmode hp hprogram hlater hend
  exact (hcompleted b rfl).later hbefore.history

/-- The reply to a fetch: the last batch. -/
def lastBatch : Outcome where
  playback := .response 200 [] ("\x7b\"result\":[4],\"hasMore\":false\x7d".toList.map
    fun x => x.val.toUInt8)
  elapsed := 0
  gate := none

/-- A task reads all that is left of a cursor over three items and one more. -/
theorem toList_complete_specimen : ∃ c s₁ envelope items,
    Batch.ofEnvelope envelope = .ok Batch.specimen ∧
    (opened (Database.specimen .async).service Mapper.raw .null .null Batch.specimen).run
      (Scene.start 0 [lastBatch]) = (.ok c, s₁) ∧
    (Database.specimen .async).service.mode = .async ∧
    let p : TaskPool (List Value) := TaskPool.start s₁
    let later := (p.spawn (do return id (← c.toList none none))).2
    p.Reaches c.Joins s₁ ∧ later.outcome? p.spawned = some (.ok items) ∧
      c.Completed p.scene.history later.scene.history := by
  let made := (opened (Database.specimen .async).service Mapper.raw .null .null
    Batch.specimen).run (Scene.start 0 [lastBatch])
  let envelope : Entries := [(.str "result", .list [.int 1, .int 2, .int 3]),
    (.str "hasMore", .bool true), (.str "id", .str "7")]
  have hfirst : Batch.ofEnvelope envelope = .ok Batch.specimen := rfl
  have hcheck : (made.1.toOption.any fun c =>
      ((TaskPool.start made.2).spawn (do return id (← c.toList none none))).2.hasGiven 0
        fun _ => true) = true := by decide +kernel
  obtain ⟨c, hc, hend⟩ := (Option.any_eq_true _ _).1 hcheck
  obtain ⟨items, hitems, -⟩ := TaskPool.hasGiven_iff.1 hend
  have hopen := Program.run_of_toOption hc
  exact ⟨c, _, envelope, items, hfirst, hopen, rfl, .start, hitems,
    toList_complete hfirst hopen rfl .start none none id .refl hitems⟩

/-! ### A list that is cut short -/

/-- **A list is cut short without a word** if the cursor is closed while the list waits for a
batch: it is returned with that batch, which has announced more. -/
theorem toList_truncated : ∃ (c : Cursor Value) (p later : TaskPool (List Value))
      (items : List Value),
    ((Database.specimen .async).cursor Query.specimen Mapper.raw none none).run Scene.late =
      (.ok c, late?.2) ∧
    p.Reaches c.Joins late?.2 ∧ (p.spawn (c.toList none none)).2.Leads c.Joins later ∧
    later.outcome? p.spawned = some (.ok items) ∧
    (Ledger.of c.ref later.scene.history).arrived.getLast?.map Batch.hasMore = some true := by
  have hcheck : (late?.1.toOption.any fun c =>
      let p := c.interrupted (c.toList none none) late?.2
      p.hasGiven 0 (fun _ => true) &&
        (Ledger.of c.ref p.scene.history).arrived.getLast?.map Batch.hasMore == some true) =
          true := by decide +kernel
  obtain ⟨c, hc, hboth⟩ := (Option.any_eq_true _ _).1 hcheck
  rw [Bool.and_eq_true, TaskPool.hasGiven_iff, beq_iff_eq] at hboth
  obtain ⟨⟨items, hitems, -⟩, hmore⟩ := hboth
  exact ⟨c, TaskPool.start late?.2, _, items, Program.run_of_toOption hc, .start,
    c.leads_interrupted _ _, hitems, hmore⟩

end Cursor

end AqlClient
