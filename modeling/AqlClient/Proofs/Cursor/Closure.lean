import AqlClient.Proofs.Cursor.Phases

/-!
# Behind the closing of a cursor

What a cursor still gives once it is closed (`Cursor.Shut`). Whether there is a next item, and what
it is, is answered at once and without a request: there is none. The next batch is answered at
once, too, but it is what is left in the buffer. Closing drops the buffer, and what arrives behind
it joins the buffer all the same: it is meant for the operation whose fetch was on its way. What
the operation does not take stays there (`Cursor.shared_shut`), and whoever asks for the next batch
of the closed cursor gets it (`Cursor.nextBatch_late`).

So the buffer of a closed cursor is empty if, and only if, everything that has arrived since it was
closed has been handed out.
-/

namespace AqlClient

variable {α β : Type} {c : Cursor α}

/-- The items that an event brings to a cursor. -/
def Event.brings (ref : Nat) : Event → List Value
  | .cursor r (.received b) => if r = ref then b.results else []
  | _ => []

namespace Ledger

variable {ref : Nat} {L M : Ledger} {events : List Event}

/-- Who was not closed, and has not been closed since, is not closed. -/
theorem not_closed_through (hL : L.state.phase ≠ .closed)
    (hevents : Event.cursor ref .closed ∉ events) :
    (L.through ref events).state.phase ≠ .closed := by
  induction events generalizing L with
  | nil => exact hL
  | cons e events ih =>
    rw [List.mem_cons, not_or] at hevents
    refine ih ?_ hevents.2
    cases e with
    | sent time q => exact hL
    | made r =>
      by_cases hr : r = ref
      · rw [read, if_pos hr]
        exact Phase.noConfusion
      · rw [read_made_of_ne hr]
        exact hL
    | cursor r change =>
      by_cases hr : r = ref
      · subst hr
        rw [read_cursor_self]
        cases change with
        | received b => exact hL
        | settled b => exact CursorState.settled_ne_closed hL b
        | taken number => exact hL
        | closed => exact absurd rfl hevents.1
        | fetching on => exact hL
      · rw [read_cursor_of_ne change hr]
        exact hL

/-- Since then some items have been brought, of which those that have not been handed out are in the
buffer. -/
def Since (M : Ledger) (brought : List Value) (L : Ledger) : Prop :=
  ∃ given, L.taken = M.taken ++ given ∧ given ++ L.state.buffer = brought

/-- The books on a cursor between two closings: what is brought goes through the buffer. -/
theorem since_through {brought : List Value} (hL : M.Since brought L)
    (hmade : Event.made ref ∉ events) (hclosed : Event.cursor ref .closed ∉ events) :
    M.Since (brought ++ events.flatMap (Event.brings ref)) (L.through ref events) := by
  induction events generalizing L brought with
  | nil =>
    rw [List.flatMap_nil, List.append_nil]
    exact hL
  | cons e events ih =>
    rw [List.mem_cons, not_or] at hmade hclosed
    rw [List.flatMap_cons, ← List.append_assoc]
    refine ih ?_ hmade.2 hclosed.2
    obtain ⟨given, htaken, hbuffer⟩ := hL
    -- of all events only a batch brings something
    have hsame : e.brings ref = [] → M.Since (brought ++ e.brings ref) L := by
      intro hnone
      rw [hnone, List.append_nil]
      exact ⟨given, htaken, hbuffer⟩
    cases e with
    | sent time q => exact hsame rfl
    | made r =>
      have hr : r ≠ ref := fun hr => hmade.1 (by rw [hr])
      rw [read_made_of_ne hr]
      exact hsame rfl
    | cursor r change =>
      by_cases hr : r = ref
      · subst hr
        rw [read_cursor_self]
        cases change with
        | received b =>
          refine ⟨given, htaken, ?_⟩
          show given ++ (L.state.buffer ++ b.results) = brought ++ if r = r then b.results else []
          rw [if_pos rfl, ← List.append_assoc, hbuffer]
        | settled b => exact hsame rfl
        | taken number =>
          refine ⟨given ++ L.state.buffer.take number, ?_, ?_⟩
          · show L.taken ++ L.state.buffer.take number = _
            rw [htaken, List.append_assoc]
          · show (given ++ L.state.buffer.take number) ++ L.state.buffer.drop number =
              brought ++ []
            rw [List.append_assoc, List.take_append_drop, hbuffer, List.append_nil]
        | closed => exact absurd rfl hclosed.1
        | fetching on => exact hsame rfl
      · rw [read_cursor_of_ne change hr]
        refine hsame ?_
        cases change with
        | received b => exact if_neg hr
        | settled b => rfl
        | taken number => rfl
        | closed => rfl
        | fetching on => rfl

end Ledger

/-- What occurs in a list occurs in it for the last time. -/
theorem exists_last_of_mem {γ : Type} {a : γ} {list : List γ} (h : a ∈ list) :
    ∃ before after, list = before ++ a :: after ∧ a ∉ after := by
  induction list with
  | nil => cases h
  | cons b rest ih =>
    by_cases hrest : a ∈ rest
    · obtain ⟨before, after, rfl, hafter⟩ := ih hrest
      exact ⟨b :: before, after, rfl, hafter⟩
    · obtain rfl | hmem := List.mem_cons.1 h
      · exact ⟨[], rest, rfl, hrest⟩
      · exact absurd hmem hrest

/-- Under the rules of a watch the place of the cursor is not given out again. -/
theorem Watch.Lawful.made_notMem {W : Watch c} {L : Ledger} {events : List Event}
    (h : W.Lawful L events) : Event.made c.ref ∉ events := by
  induction events generalizing L with
  | nil => exact List.not_mem_nil
  | cons e events ih =>
    rw [List.mem_cons, not_or]
    refine ⟨?_, ih h.2⟩
    rintro rfl
    exact h.1 rfl

/-- **Under the rules of a watch** a closed cursor has been closed for a last time. What has been
brought since then is what has been handed out since then, and the buffer behind it. -/
theorem Watch.Course.late {W : Watch c} {L : Ledger} {s : Scene} (h : W.Course L s)
    (hopening : W.opening = Ledger.of c.ref W.past) (hopen : W.opening.state.phase ≠ .closed)
    (hclosed : L.state.phase = .closed) :
    ∃ before after given, s.history = before ++ .cursor c.ref .closed :: after ∧
      Event.cursor c.ref .closed ∉ after ∧ L.taken = (Ledger.of c.ref before).taken ++ given ∧
      given ++ L.state.buffer = after.flatMap (Event.brings c.ref) := by
  obtain ⟨events, hhistory, hlaw, hL⟩ := h.events
  have hmem : Event.cursor c.ref .closed ∈ events := by
    refine Classical.byContradiction fun hnone => ?_
    refine Ledger.not_closed_through hopen hnone ?_
    rw [← hL]
    exact hclosed
  obtain ⟨before, after, rfl, hafter⟩ := exists_last_of_mem hmem
  have hmade : Event.made c.ref ∉ after := fun hmade =>
    hlaw.made_notMem (List.mem_append_right _ (List.mem_cons_of_mem _ hmade))
  have hend : L = ((Ledger.of c.ref (W.past ++ before)).note .closed).through c.ref after := by
    rw [hL, Ledger.through_append, Ledger.through_cons, Ledger.read_cursor_self, hopening,
      ← Ledger.of_append]
  -- the buffer is empty behind the closing
  have hstart : ((Ledger.of c.ref (W.past ++ before)).note .closed).Since []
      ((Ledger.of c.ref (W.past ++ before)).note .closed) :=
    ⟨[], (List.append_nil _).symm, rfl⟩
  obtain ⟨given, htaken, hbuffer⟩ := Ledger.since_through hstart hmade hafter
  refine ⟨W.past ++ before, after, given, ?_, hafter, ?_, ?_⟩
  · rw [hhistory, List.append_assoc]
  · rw [hend]
    exact htaken
  · rw [hend]
    exact hbuffer

namespace Cursor

variable {s : Scene}

/-! ### Closed cursors -/

/-- **What a closed cursor still gives.** -/
structure Shut (c : Cursor α) (s : Scene) : Prop where
  /-- There is no next item, and nothing is sent to find out. -/
  hasNext : c.hasNext.atOnce s = some (.ok false, s)
  next : c.next?.atOnce s = some (.ok none, s)
  /-- The next batch comes at once. -/
  atOnce : ∃ r s', c.nextBatch.atOnce s = some (r, s')
  /-- It is empty if the buffer is, and only then. -/
  nextBatch : (∃ s', c.nextBatch.atOnce s = some (.ok [], s')) ↔ (s.cursors c.ref).buffer = []
  /-- While a batch is on its way, the buffer is empty. -/
  fetching : (s.cursors c.ref).fetching = true → (s.cursors c.ref).buffer = []
  /-- What has been brought since the cursor was closed for the last time is what has been handed
  out since then, and the buffer behind it. -/
  late : ∃ before after given, s.history = before ++ .cursor c.ref .closed :: after ∧
    Event.cursor c.ref .closed ∉ after ∧
    (Ledger.of c.ref s.history).taken = (Ledger.of c.ref before).taken ++ given ∧
    given ++ (s.cursors c.ref).buffer = after.flatMap (Event.brings c.ref)

/-- Handing out comes to an end at once. -/
theorem atOnce_handOut (number : Nat) : (c.handOut number).atOnce s =
    match c.mapper.convert (s.cursors c.ref).consumed ((s.cursors c.ref).buffer.take number) with
    | .ok items => some (.ok items, s.changeCursor c.ref (.taken number))
    | .error e => some (.error e, s) := by
  unfold handOut
  rw [atOnce_look]
  cases c.mapper.convert (s.cursors c.ref).consumed ((s.cursors c.ref).buffer.take number) with
  | ok items => rfl
  | error e => rfl

/-- The next batch of a closed cursor is what is left in the buffer. -/
theorem atOnce_nextBatch (hclosed : (s.cursors c.ref).phase = .closed) :
    c.nextBatch.atOnce s = (c.handOut (s.cursors c.ref).buffer.length).atOnce s := by
  have hneeds : ¬ (s.cursors c.ref).needsFetch = true := by
    rw [needsFetch_iff, hclosed]
    exact fun h => Phase.noConfusion h.2
  unfold Cursor.nextBatch drain
  rw [atOnce_look, if_neg hneeds, atOnce_look]

theorem nextBatch_empty_iff (hclosed : (s.cursors c.ref).phase = .closed) :
    (∃ s', c.nextBatch.atOnce s = some (.ok [], s')) ↔ (s.cursors c.ref).buffer = [] := by
  rw [atOnce_nextBatch hclosed, atOnce_handOut, List.take_length]
  constructor
  · rintro ⟨s', h⟩
    cases hconvert : c.mapper.convert (s.cursors c.ref).consumed (s.cursors c.ref).buffer with
    | ok items =>
      rw [hconvert] at h
      cases h
      -- there are as many items as raw ones
      exact List.map_eq_nil_iff.1 (Mapper.convert_ok_iff.1 hconvert)
    | error e =>
      rw [hconvert] at h
      cases h
  · intro hbuffer
    rw [hbuffer]
    exact ⟨_, rfl⟩

variable {service : QueryService} {mapper : Mapper α} {requestLimit overallLimit : Value}
  {first : Batch} {s₀ s₁ : Scene} {p : TaskPool β}

/-- **Behind the closing of a cursor that tasks share** there is nothing but what arrives late. -/
theorem shared_shut
    (hopen : (opened service mapper requestLimit overallLimit first).run s₀ = (.ok c, s₁))
    (hmode : service.mode = .async) (hp : p.Reaches c.Joins s₁)
    (hclosed : (p.scene.cursors c.ref).phase = .closed) : c.Shut p.scene := by
  obtain ⟨hservice, -, hfresh⟩ := fresh_of_opened hopen
  rw [← hservice] at hmode
  obtain ⟨w, ⟨L, hL, -, -⟩, -, -⟩ := hfresh.orderly hmode hp
  have hbooks : Ledger.opened first = Ledger.of c.ref s₁.history := hfresh.books.symm
  refine ⟨?_, ?_, ?_, nextBatch_empty_iff hclosed, ?_, ?_⟩
  · unfold Cursor.hasNext
    rw [atOnce_look, if_pos hclosed]
    rfl
  · unfold Cursor.next?
    rw [atOnce_look, if_pos hclosed]
    rfl
  · rw [atOnce_nextBatch hclosed, atOnce_handOut]
    split
    · exact ⟨_, _, rfl⟩
    · exact ⟨_, _, rfl⟩
  · rw [hL.state]
    exact fun hfetching => (hL.sound.fetching hfetching).2.1
  · have hlate := hL.late hbooks (Ledger.opened_ne_closed first) (hL.state ▸ hclosed)
    rw [hL.books hbooks, hL.state]
    exact hlate

/-- A cursor over three items is closed by a task. -/
theorem shared_shut_specimen : ∃ c s₁,
    (opened (Database.specimen .async).service Mapper.raw .null .null Batch.specimen).run
      (Scene.start 0 []) = (.ok c, s₁) ∧
    (Database.specimen .async).service.mode = .async ∧
    let p := ((TaskPool.start s₁).spawn c.close).2
    p.Reaches c.Joins s₁ ∧ (p.scene.cursors c.ref).phase = .closed ∧ c.Shut p.scene := by
  let made := (opened (Database.specimen .async).service Mapper.raw .null .null
    Batch.specimen).run (Scene.start 0 [])
  have hcheck : (made.1.toOption.any fun c =>
      (((TaskPool.start made.2).spawn c.close).2.scene.cursors c.ref).phase == .closed) = true := by
    decide +kernel
  obtain ⟨c, hc, hclosed⟩ := (Option.any_eq_true _ _).1 hcheck
  have hopen := Program.run_of_toOption hc
  rw [beq_iff_eq] at hclosed
  refine ⟨c, _, hopen, rfl, ?_⟩
  intro p
  have hp : p.Reaches c.Joins made.2 := .spawn .start .close
  exact ⟨hp, hclosed, shared_shut hopen rfl hp hclosed⟩

end Cursor

/-! ### A batch that is late -/

/-- Whether a task has ended with a value that is accepted. -/
def TaskPool.hasGiven (p : TaskPool β) (number : Nat) (accepts : β → Bool) : Bool :=
  (p.outcome? number).any fun r => r.toOption.any accepts

theorem TaskPool.hasGiven_iff {p : TaskPool β} {number : Nat} {accepts : β → Bool} :
    p.hasGiven number accepts = true ↔
      ∃ b, p.outcome? number = some (.ok b) ∧ accepts b = true := by
  unfold hasGiven
  rw [Option.any_eq_true]
  constructor
  · rintro ⟨r, hr, haccepts⟩
    obtain ⟨b, hb, haccepts⟩ := (Option.any_eq_true _ _).1 haccepts
    cases r with
    | ok a =>
      cases hb
      exact ⟨b, hr, haccepts⟩
    | error e => cases hb
  · rintro ⟨b, hb, haccepts⟩
    exact ⟨.ok b, hb, haccepts⟩

namespace Cursor

/-- A task reads from a cursor, another one closes it while the first one waits for a batch, and
then the batch arrives. -/
def interrupted (c : Cursor Value) (reading : Program (List Value)) (s : Scene) :
    TaskPool (List Value) :=
  (((TaskPool.start s).spawn reading).2.spawn (do c.close; return [])).2.openGate "gate"

theorem client_closing_nothing (c : Cursor Value) :
    c.Client (do c.close; return [] : Program (List Value)) :=
  .bind .close fun _ => .other (show c.Apart (pure []) from trivial)

/-- What becomes of the pool in which the first task has just been started. -/
theorem leads_interrupted (c : Cursor Value) (reading : Program (List Value)) (s : Scene) :
    ((TaskPool.start s).spawn reading).2.Leads c.Joins (c.interrupted reading s) :=
  .tail (.tail .refl (.spawn c.client_closing_nothing)) (.openGate "gate")

/-- **A closed cursor gives a batch** that has arrived late, for a task that only wanted to know
whether there was a next item. No batch is on its way any more. -/
theorem nextBatch_late : ∃ (c : Cursor Value) (p : TaskPool (List Value)) (items : List Value),
    ((Database.specimen .async).cursor Query.specimen Mapper.raw none none).run Scene.late =
      (.ok c, late?.2) ∧
    p.Reaches c.Joins late?.2 ∧
    (p.scene.cursors c.ref).phase = .closed ∧ (p.scene.cursors c.ref).fetching = false ∧
    p.waiting.length = 0 ∧
    (p.spawn c.nextBatch).2.outcome? p.spawned = some (.ok items) ∧ items.length = 2 := by
  have hcheck : (late?.1.toOption.any fun c =>
      let p := c.interrupted (do let _ ← c.hasNext; return []) late?.2
      ((p.scene.cursors c.ref).phase == .closed && !(p.scene.cursors c.ref).fetching &&
        p.waiting.length == 0) &&
        (p.spawn c.nextBatch).2.hasGiven p.spawned fun items => items.length == 2) = true := by
    decide +kernel
  obtain ⟨c, hc, hboth⟩ := (Option.any_eq_true _ _).1 hcheck
  dsimp only at hboth
  rw [Bool.and_eq_true, Bool.and_eq_true, Bool.and_eq_true, beq_iff_eq, beq_iff_eq,
    Bool.not_eq_true', TaskPool.hasGiven_iff] at hboth
  obtain ⟨⟨⟨hclosed, hidle⟩, hwaiting⟩, items, hitems, hlength⟩ := hboth
  have hlooking : c.Client (do let _ ← c.hasNext; return [] : Program (List Value)) :=
    .bind .hasNext fun _ => .other (show c.Apart (pure []) from trivial)
  exact ⟨c, _, items, Program.run_of_toOption hc,
    .openGate "gate" (.spawn (.spawn .start hlooking) c.client_closing_nothing),
    hclosed, hidle, hwaiting, hitems, beq_iff_eq.1 hlength⟩

end Cursor

end AqlClient
