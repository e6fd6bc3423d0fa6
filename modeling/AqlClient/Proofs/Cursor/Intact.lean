import AqlClient.Proofs.Cursor.Exit

/-!
# Fetches that fail

A use of a cursor that takes no more than a batch either gives something, or it has failed in one of
three ways (`Cursor.Fails`): an item could not be converted; its last fetch has failed, and but
for that request the cursor is as if the fetch had never been tried; or the batch has arrived, but
its warnings cannot be gone through. Only in the third case has anything changed: the items are in
the buffer, and the cursor has not been told whether there are more (`Database.cursor_intact`,
`Cursor.nextBatch_half_way`).

What the cursor was like right before a request was sent is read off the history up to there
(`Cursor.LatestFetch`). What an exchange adds to it is the request alone, so that a failure finds
the cursor as it was, with the mark taken back that an asynchronous cursor sets for the time of a
fetch. Then it remains that no other request can fail: fetches are made until there is an item or no
further batch, and a cursor of which the server holds no more is closed without a request.
-/

namespace AqlClient

variable {α β : Type} {c : Cursor α}

namespace Cursor

/-! ### How a use fails -/

/-- **The latest request of a history is a fetch** behind some point of it, which was sent where it
was needed. -/
structure LatestFetch (c : Cursor α) (past before history : List Event) : Prop where
  begun : past <+: before
  needed : (Ledger.of c.ref before).state.needsFetch = true
  sent : ∃ time id limit body after,
    history = before ++ .sent time (c.request "PUT" id limit body) :: after ∧
      after.filterMap Event.request? = []

/-- **How a use has failed** that takes no more than a batch, and that was begun at some point of
the history. -/
inductive Fails (c : Cursor α) (past : List Event) (e : Failure) (s : Scene) : Prop
  /-- Some items could not be converted. -/
  | converting (number : Nat) : c.mapper.convert (s.cursors c.ref).consumed
      ((s.cursors c.ref).buffer.take number) = .error e → c.Fails past e s
  /-- A fetch has failed, and the cursor is as it was right before. -/
  | fetching {before : List Event} : c.LatestFetch past before s.history →
      s.cursors c.ref = (Ledger.of c.ref before).state.marked false → c.Fails past e s
  /-- A batch has arrived whose warnings cannot be gone through. -/
  | reporting {before : List Event} {b : Batch} : c.LatestFetch past before s.history →
      (Ledger.of c.ref s.history).arrived.getLast? = some b → ¬ b.Legible → e = .wrongType →
      s.cursors c.ref = ((Ledger.of c.ref before).state.marked false).received b →
      c.Fails past e s

/-- If a program has failed, it has failed in one of these ways. -/
def Justified (c : Cursor α) (past : List Event) (r : Except Failure β) (s : Scene) : Prop :=
  ∀ e, r = .error e → c.Fails past e s

/-- **What fails leaves a cursor intact:** every use that takes no more than a batch. -/
structure Intact (c : Cursor α) (s : Scene) : Prop where
  next : c.Justified s.history (c.next?.run s).1 (c.next?.run s).2
  nextBatch : c.Justified s.history (c.nextBatch.run s).1 (c.nextBatch.run s).2
  hasNext : c.Justified s.history (c.hasNext.run s).1 (c.hasNext.run s).2

/-! ### A fetch -/

variable {ω : Type} {D : Discipline ω} {w : ω} {s s' : Scene} {past before history : List Event}

theorem justified_ok (b : β) : c.Justified past (.ok b) s := fun _ he => nomatch he

theorem justified_error {e : Failure} (h : c.Fails past e s) :
    c.Justified past (.error e : Except Failure β) s := by
  rintro _ ⟨⟩
  exact h

/-- What happens to the cursor behind a fetch is no request. -/
theorem LatestFetch.change (h : c.LatestFetch past before history) (change : CursorChange) :
    c.LatestFetch past before (history ++ [.cursor c.ref change]) := by
  obtain ⟨hpast, hneeded, time, id, limit, body, after, rfl, hlatest⟩ := h
  refine ⟨hpast, hneeded, time, id, limit, body, after ++ [.cursor c.ref change], ?_, ?_⟩
  · rw [List.append_assoc, List.cons_append]
  · rw [List.filterMap_append, hlatest]
    rfl

/-- The exchange of a fetch adds its request to the history and changes no cursor. -/
theorem wp_fetchBatch_asked (hchannel : c.service.gateway.channel = some c.service.mode)
    (hid : (s.cursors c.ref).cursorId.isSome = true) :
    (c.fetchBatch none).wp .alone (fun _ _ s' => s'.cursors = s.cursors ∧
      ∃ time id limit body,
        s'.history = s.history ++ [.sent time (c.request "PUT" id limit body)]) w s := by
  let I : ω → Scene → Prop := fun _ s' => s'.cursors = s.cursors ∧ s'.history = s.history
  let J : ω → Scene → Prop := fun _ s' => s'.cursors = s.cursors ∧ ∃ time id limit body,
    s'.history = s.history ++ [.sent time (c.request "PUT" id limit body)]
  have hcarries : ∀ id limit, c.service.gateway.Carries .alone I J
      (QueryService.cursorCall "PUT" id limit) := by
    rintro id limit body w s' ⟨hcursors, hhistory⟩
    refine ⟨trivial, fun w' reply s'' hback => ?_⟩
    obtain ⟨-, rfl⟩ := Discipline.alone_back hback
    refine ⟨hcursors, s'.now, id, limit, body, ?_⟩
    rw [← hhistory]
    rfl
  refine wp_fetchBatch_of ?_ (fun _ _ _ hd => nomatch hd) fun id limit _ _ => ?_
  · intro hnone
    rw [hnone] at hid
    cases hid
  · exact QueryService.wp_fetch_sent (I := I) (J := J) (fun _ _ _ _ h => h) (fun _ _ _ _ h => h)
      (hcarries id limit) hchannel ⟨rfl, rfl⟩

/-- Where a fetch is needed: the books are right, and the cursor can be asked for. -/
structure Needy (c : Cursor α) (s : Scene) : Prop where
  books : s.cursors c.ref = (Ledger.of c.ref s.history).state
  needed : (s.cursors c.ref).needsFetch = true
  named : (s.cursors c.ref).cursorId.isSome = true

/-- **An exchange leaves the cursor as it was,** whatever comes of it. -/
theorem Needy.wp_fetchBatch (h : c.Needy s) (hpast : past <+: s.history)
    (hchannel : c.service.gateway.channel = some c.service.mode) :
    (c.fetchBatch none).wp .alone (fun _ _ s' => c.LatestFetch past s.history s'.history ∧
      s'.cursors c.ref = (Ledger.of c.ref s.history).state) w s := by
  refine Program.wp_mono (wp_fetchBatch_asked hchannel h.named) ?_
  rintro r w s' ⟨hcursors, time, id, limit, body, hsent⟩
  refine ⟨⟨hpast, h.books ▸ h.needed, time, id, limit, body, [], hsent, rfl⟩, ?_⟩
  rw [hcursors, h.books]

theorem Needy.mark (h : c.Needy s) : c.Needy (s.changeCursor c.ref (.fetching true)) := by
  have hstate : (s.changeCursor c.ref (.fetching true)).cursors c.ref =
      (s.cursors c.ref).marked true := s.changeCursor_cursors_self c.ref _
  refine ⟨?_, ?_, ?_⟩
  · show _ = (Ledger.of c.ref (s.history ++ [_])).state
    rw [hstate, Ledger.of_change, h.books]
    rfl
  · rw [hstate]
    exact h.needed
  · rw [hstate]
    exact h.named

/-- **The arrival of a batch fails half-way,** if it fails. -/
theorem wp_ingest_justified (b : Batch) (hlatest : c.LatestFetch past before s.history)
    (hstate : s.cursors c.ref = (Ledger.of c.ref before).state.marked false) :
    (c.ingest b).wp .alone (fun r _ s' => c.Justified past r s') w s := by
  let I : ω → Scene → Prop := fun _ s' => c.LatestFetch past before s'.history ∧
    (Ledger.of c.ref s'.history).arrived.getLast? = some b ∧
    s'.cursors c.ref = ((Ledger.of c.ref before).state.marked false).received b
  have hI : Logless I := fun _ _ _ _ h => h
  have hreceived : I w (s.changeCursor c.ref (.received b)) := by
    refine ⟨hlatest.change _, ?_, ?_⟩
    · show (Ledger.of c.ref (s.history ++ [_])).arrived.getLast? = some b
      rw [Ledger.of_change]
      exact List.getLast?_concat
    · rw [Scene.changeCursor_cursors_self, hstate]
      rfl
  unfold ingest
  rw [wp_update]
  refine Program.wp_seq (wp_reportWarnings hI b hreceived) ?_ ?_
  · exact fun _ _ _ _ => justified_ok _
  · rintro e w s' ⟨hwarned, hlatest, harrived, hstate⟩
    exact justified_error (.reporting hlatest harrived (Batch.illegible_of_warned hwarned.symm)
      (Batch.eq_wrongType_of_warned hwarned.symm) hstate)

/-- **A fetch fails in two ways only.** -/
theorem Needy.wp_fetchNext (h : c.Needy s) (hpast : past <+: s.history)
    (hchannel : c.service.gateway.channel = some c.service.mode)
    (hidle : (s.cursors c.ref).fetching = false) :
    (c.fetchNext none).wp .alone (fun r _ s' => c.Justified past r s') w s := by
  -- in both modes a fetch fails within the exchange or when the batch arrives
  have hingest : ∀ (before : List Event) {fetch : Program Batch},
      fetch.wp .alone (fun _ _ s' => c.LatestFetch past before s'.history ∧
        s'.cursors c.ref = (Ledger.of c.ref before).state.marked false) w s →
      (fetch >>= c.ingest).wp .alone (fun r _ s' => c.Justified past r s') w s := by
    intro before fetch hfetch
    refine Program.wp_seq hfetch ?_ ?_
    · exact fun b w s' h => wp_ingest_justified b h.1 h.2
    · exact fun e w s' h => justified_error (.fetching h.1 h.2)
  refine wp_fetchNext_of (hingest s.history ?_)
    (hingest (s.changeCursor c.ref (.fetching true)).history ?_)
  · refine Program.wp_mono (h.wp_fetchBatch hpast hchannel) ?_
    rintro r w s' ⟨hlatest, hstate⟩
    refine ⟨hlatest, ?_⟩
    -- nothing is marked, so that there is nothing to take back
    rw [hstate, ← h.books]
    show _ = { s.cursors c.ref with fetching := false }
    rw [← hidle]
  -- the request is sent from behind the mark, which has been taken back by the end
  · have hnone : ¬ (s.cursors c.ref).fetching = true := by
      rw [hidle]
      exact Bool.false_ne_true
    rw [wp_fetchAlone, if_neg hnone]
    refine Program.wp_mono
      (h.mark.wp_fetchBatch (hpast.trans (List.prefix_append _ _)) hchannel) ?_
    rintro r w s' ⟨hlatest, hstate⟩
    refine ⟨hlatest.change _, ?_⟩
    rw [Scene.changeCursor_cursors_self, hstate]
    rfl

/-! ### Handing out -/

/-- What is handed out is converted first. -/
theorem wp_handOut_justified (number : Nat) :
    (c.handOut number).wp D (fun r _ s' => c.Justified past r s') w s := by
  rw [wp_handOut]
  split
  · exact justified_ok _
  case h_2 e he => exact justified_error (.converting number he)

theorem wp_drain_justified : c.drain.wp D (fun r _ s' => c.Justified past r s') w s := by
  rw [wp_drain]
  exact wp_handOut_justified _

theorem wp_pop_justified : c.pop?.wp D (fun r _ s' => c.Justified past r s') w s :=
  Program.wp_seq (wp_handOut_justified 1) (fun _ _ _ _ => justified_ok _)
    fun e _ _ h => justified_error (h e rfl)

/-! ### Uses that take no more than a batch -/

/-- Where all is quiet, a live cursor without items can be asked for more. -/
theorem needy_of_quiet {W : Watch c} {flag : Bool} (hopening : W.opening = Ledger.of c.ref W.past)
    (hphased : W.opening.Phased c.service.mode) (h : W.Quiet flag s)
    (hneeds : (s.cursors c.ref).needsFetch = true) : c.Needy s := by
  obtain ⟨L, hL, -, -⟩ := h
  have hphasedL : L.Phased c.service.mode := by
    obtain ⟨events, -, hlaw, rfl⟩ := hL.events
    exact hlaw.phased hphased
  refine ⟨?_, hneeds, ?_⟩
  · rw [hL.books hopening]
    exact hL.state
  · rw [hL.state] at hneeds ⊢
    exact (hphasedL.live (needsFetch_iff.1 hneeds).2).1

/-- A program has kept the watch and gone on from some point of the history, and if it has failed,
it has failed in a known way. -/
structure Explained (W : Watch c) (past : List Event) (r : Except Failure β) (s : Scene) : Prop where
  quiet : W.Quiet false s
  later : past <+: s.history
  justified : c.Justified past r s

section Uses

variable {W : Watch c} (hopening : W.opening = Ledger.of c.ref W.past)
  (hphased : W.opening.Phased c.service.mode) (hfree : W.Free)
  (hchannel : c.service.gateway.channel = some c.service.mode) (h : W.Quiet false s)

include hopening hphased hfree hchannel h

theorem wp_fetchNext_explained (hpast : past <+: s.history)
    (hneeds : (s.cursors c.ref).needsFetch = true) :
    (c.fetchNext none).wp .alone (fun r _ s' => Explained W past r s') w s := by
  have hneedy : c.Needy s := needy_of_quiet hopening hphased h hneeds
  have hidle : (s.cursors c.ref).fetching = false := by
    obtain ⟨L, hL, -, hidle⟩ := h
    rw [hL.state]
    exact hidle
  have hquiet := (Program.wp_alone _).1
    (wp_fetchNext_quiet W.hosts_alone hfree.receptive none h hneeds)
  have hjustified := (Program.wp_alone _).1
    (hneedy.wp_fetchNext (w := ()) hpast hchannel hidle)
  exact (Program.wp_alone _).2
    ⟨hquiet, hpast.trans ((c.fetchNext none).before_run s).history, hjustified⟩

/-- **Fetches go on until none is needed,** if there are more rounds than the script has
outcomes. -/
theorem wp_fillWithin_explained {rounds : Nat} (hpast : past <+: s.history)
    (hrounds : s.script.length < rounds) :
    (c.fillWithin none rounds).wp .alone (fun r _ s' => Explained W past r s' ∧
      ∀ u, r = .ok u → (s'.cursors c.ref).needsFetch = false) () s := by
  induction rounds generalizing s with
  | zero => exact absurd hrounds (Nat.not_lt_zero _)
  | succ n ih =>
    unfold fillWithin
    rw [wp_look]
    split
    case isFalse hneeds =>
      exact ⟨⟨h, hpast, justified_ok _⟩, fun _ _ => Bool.eq_false_iff.2 hneeds⟩
    case isTrue hneeds =>
      refine Program.wp_seq (Program.wp_and Discipline.honest_alone
        (wp_fetchNext_explained hopening hphased hfree hchannel h hpast hneeds)
        (Program.wp_shorter (wp_fetchNext_dead none) (.refl s))) ?_ ?_
      · rintro ⟨⟩ w s' ⟨hfetched, hshorter⟩
        -- the batch has used up some of the script, so that there are still enough rounds
        have hleft : s'.script.length < n := by
          have := hshorter () rfl
          omega
        exact ih hfetched.quiet hfetched.later hleft
      · exact fun e w s' hfailed => ⟨hfailed.1, fun _ he => by cases he⟩

/-- A program that first looks for an item has failed in a known way, or goes on where no further
fetch is needed. -/
theorem wp_fill_justified {f : Unit → Program β}
    (hf : ∀ (w : Unit) s', (s'.cursors c.ref).needsFetch = false →
      (f ()).wp .alone (fun r _ s'' => c.Justified s.history r s'') w s') :
    (c.fill none >>= f).wp .alone (fun r _ s' => c.Justified s.history r s') () s := by
  have hrounds : s.script.length < s.horizon := Nat.lt_add_of_pos_right (by decide)
  have hfill := wp_fillWithin_explained hopening hphased hfree hchannel h (List.prefix_refl _) hrounds
  refine Program.wp_seq (p := c.fill none) hfill ?_ ?_
  · exact fun _ w s' hdone => hf w s' (hdone.2 _ rfl)
  · exact fun e _ _ hfailed => justified_error (hfailed.1.justified e rfl)

theorem wp_next_justified :
    c.next?.wp .alone (fun r _ s' => c.Justified s.history r s') () s := by
  unfold next?
  rw [wp_look]
  split
  case isTrue => exact justified_ok _
  case isFalse =>
    refine wp_fill_justified hopening hphased hfree hchannel h fun w s' hneeds => ?_
    rw [wp_look]
    split
    case isFalse => exact wp_pop_justified
    case isTrue hempty =>
      -- the server holds no more, so that there is nothing to release
      have hnone : (s'.cursors c.ref).toRelease = none :=
        CursorState.toRelease_of_empty hempty hneeds
      unfold close
      rw [Program.wp_bind, wp_look, wp_update, hnone]
      exact justified_ok _

theorem wp_nextBatch_justified :
    c.nextBatch.wp .alone (fun r _ s' => c.Justified s.history r s') () s := by
  unfold nextBatch
  rw [wp_look]
  split
  case isFalse => exact wp_drain_justified
  case isTrue hneeds =>
    refine Program.wp_seq (wp_fetchNext_explained hopening hphased hfree hchannel h
      (List.prefix_refl _) hneeds) ?_ ?_
    · exact fun _ _ _ _ => wp_drain_justified
    · exact fun e _ _ hfailed => justified_error (hfailed.justified e rfl)

theorem wp_hasNext_justified :
    c.hasNext.wp .alone (fun r _ s' => c.Justified s.history r s') () s := by
  unfold hasNext
  rw [wp_look]
  split
  case isTrue => exact justified_ok _
  case isFalse =>
    exact wp_fill_justified hopening hphased hfree hchannel h fun _ _ _ => justified_ok _

/-- **Every use that takes no more than a batch leaves the cursor intact** when it fails. -/
theorem intact_of_quiet : c.Intact s where
  next := (Program.wp_alone _).1 (wp_next_justified hopening hphased hfree hchannel h)
  nextBatch := (Program.wp_alone _).1 (wp_nextBatch_justified hopening hphased hfree hchannel h)
  hasNext := (Program.wp_alone _).1 (wp_hasNext_justified hopening hphased hfree hchannel h)

end Uses

end Cursor

/-- **A use of a cursor that fails leaves it intact,** unless a batch has arrived whose warnings
cannot be gone through. A caller has done anything with the cursor, or tasks that share it have, and
no batch is on its way. -/
theorem Database.cursor_intact {d : Database} {q : Query} {mapper : Mapper α}
    {request timeout : Option Int} {s₀ s₁ : Scene}
    (hopen : (d.cursor q mapper request timeout).run s₀ = (.ok c, s₁)) :
    (∀ {γ : Type} {p : Program γ}, c.Client p → c.Intact (p.run s₁).2) ∧
    (d.session.mode = .async → ∀ {γ : Type} {p : TaskPool γ}, p.Reaches c.Joins s₁ →
      (p.scene.cursors c.ref).fetching = false → c.Intact p.scene) := by
  obtain ⟨hservice, -, first, hfresh, hnamed⟩ := Database.cursor_named hopen
  let W := Watch.sinceMaking c c.concerns first s₁.history
  have hchannel := Database.channel_of_service hservice
  have hphased : W.opening.Phased c.service.mode :=
    Ledger.opened_phased c.service.mode hnamed
  have hintact : ∀ {s}, W.Quiet false s → c.Intact s :=
    Cursor.intact_of_quiet hfresh.books.symm hphased (fun _ => trivial) hchannel
  constructor
  · intro γ p hp
    exact hintact (hp.run_quiet (hfresh.quiet c.concerns) (fun _ => trivial) rfl fun _ => rfl)
  · intro hmode γ p hp hidle
    have hasync : c.service.mode = .async := by
      rw [hservice]
      exact hmode
    -- whichever tasks are waiting, none of them is within a fetch
    obtain ⟨w, ⟨L, hL, hlevel, -⟩, -, -⟩ := hfresh.orderly hasync hp
    rw [hL.state] at hidle
    exact hintact ⟨L, hL, hlevel, hidle⟩

/-- The scene in which a server answers the query, and sends a last batch with a number in the place
of its warnings. -/
def Scene.illegible : Scene :=
  Scene.start 0
    [.specimen,
      ⟨.response 200 []
        ("\x7b\"result\":[1],\"hasMore\":false,\"extra\":\x7b\"warnings\":5\x7d\x7d".toList.map
          fun x => x.val.toUInt8), 0, none⟩]

/-- The cursor of the query, over which a batch will not be legible. -/
def Cursor.illegible? : Except Failure (Cursor Value) × Scene :=
  ((Database.specimen .async).cursor Query.specimen Mapper.raw none none).run Scene.illegible

/-- A caller looks for an item, and a task asks for a batch. -/
theorem Database.cursor_intact_specimen : ∃ c s₁,
    ((Database.specimen .async).cursor Query.specimen Mapper.raw none none).run
      Scene.illegible = (.ok c, s₁) ∧
    c.Client c.hasNext ∧ c.Intact (c.hasNext.run s₁).2 ∧
    (Database.specimen .async).session.mode = .async ∧
    let p : TaskPool (List Value) := ((TaskPool.start s₁).spawn c.nextBatch).2
    p.Reaches c.Joins s₁ ∧ (p.scene.cursors c.ref).fetching = false ∧ c.Intact p.scene := by
  have hcheck : (Cursor.illegible?.1.toOption.any fun c =>
      !(((TaskPool.start Cursor.illegible?.2).spawn c.nextBatch).2.scene.cursors c.ref).fetching) =
        true := by decide +kernel
  obtain ⟨c, hc, hidle⟩ := (Option.any_eq_true _ _).1 hcheck
  rw [Bool.not_eq_true'] at hidle
  have hopen := Program.run_of_toOption hc
  obtain ⟨halone, hshared⟩ := cursor_intact hopen
  have hp : ((TaskPool.start Cursor.illegible?.2).spawn c.nextBatch).2.Reaches c.Joins
      Cursor.illegible?.2 := .spawn .start .nextBatch
  exact ⟨c, _, hopen, .hasNext, halone .hasNext, rfl, hp, hidle, hshared rfl hp hidle⟩

/-- Whether a fetch is needed, and asking for the next batch fails for a value of the wrong type
when one item has come in. -/
def Cursor.isHalfWay (c : Cursor Value) (s : Scene) : Bool :=
  let r := c.nextBatch.run s
  (s.cursors c.ref).needsFetch && (r.2.cursors c.ref).buffer.length == 1 &&
    (r.2.cursors c.ref).batches == (s.cursors c.ref).batches + 1 &&
    match r.1 with
    | .error .wrongType => true
    | _ => false

/-- **A batch whose warnings cannot be gone through arrives half-way:** the use that has asked for
it fails, and the cursor holds its items and has counted it. -/
theorem Cursor.nextBatch_half_way : ∃ (c : Cursor Value) (s₁ s₂ : Scene),
    ((Database.specimen .async).cursor Query.specimen Mapper.raw none none).run
      Scene.illegible = (.ok c, s₁) ∧
    c.nextBatch.run s₁ = (.error .wrongType, s₂) ∧
    (s₁.cursors c.ref).phase = .live ∧
    (s₁.cursors c.ref).buffer = [] ∧ (s₂.cursors c.ref).buffer ≠ [] ∧
    (s₂.cursors c.ref).batches = (s₁.cursors c.ref).batches + 1 := by
  have hcheck : (illegible?.1.toOption.any fun c => c.isHalfWay illegible?.2) = true := by
    decide +kernel
  obtain ⟨c, hc, hhalf⟩ := (Option.any_eq_true _ _).1 hcheck
  unfold isHalfWay at hhalf
  rw [Bool.and_eq_true, Bool.and_eq_true, Bool.and_eq_true, needsFetch_iff, beq_iff_eq,
    beq_iff_eq] at hhalf
  obtain ⟨⟨⟨⟨hempty, hlive⟩, hone⟩, hcounted⟩, hend⟩ := hhalf
  have hfails : (c.nextBatch.run illegible?.2).1 = .error .wrongType := by
    split at hend
    case h_1 he => exact he
    case h_2 => cases hend
  have hfilled : ((c.nextBatch.run illegible?.2).2.cursors c.ref).buffer ≠ [] := by
    intro hnone
    rw [hnone] at hone
    cases hone
  exact ⟨c, illegible?.2, (c.nextBatch.run illegible?.2).2, Program.run_of_toOption hc,
    Prod.ext hfails rfl, hlive, hempty, hfilled, hcounted⟩

end AqlClient
