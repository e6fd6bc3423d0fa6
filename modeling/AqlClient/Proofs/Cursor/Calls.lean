import AqlClient.Proofs.Cursor.Fetching
import AqlClient.Proofs.Cursor.Pagination
import AqlClient.Proofs.Program.Stretches
import AqlClient.Proofs.Timeliness

/-!
# Calls on the items of a cursor

The calls of a callback on the items of a cursor make up a *course* (`Cursor.Course`): a batch is
fetched where nothing is held and the cursor is live, and otherwise the callback is called on the
item in front. In between the callback may do whatever it likes, as long as it lets the cursor be
(`Cursor.LetsBe`). A course ends where the callback returns `False` or fails, or where there are no
items any more (`Cursor.Ending`).

Where a course stands is an invariant of its steps (`Cursor.Stands`). It says what has been visited,
and how many items there are in front of each of the batches that have been fetched, so that none of
them has been fetched too early.

Nothing is presupposed about the server but that the fetches end well that a course comes to
(`Cursor.Smooth`). That is so for a stocked cursor under a deadline that lasts
(`Cursor.Stocked.smooth`).
-/

namespace AqlClient

variable {α β ω : Type} {c : Cursor α}

/-! ### Programs that leave a cursor as it is -/

namespace Cursor

/-- **A program lets a cursor be:** it leaves it as it is, whatever else it does. -/
def LetsBe (c : Cursor α) (p : Program β) : Prop :=
  ∀ s : Scene, c.ref < s.cursorCount → (p.run s).2.cursors c.ref = s.cursors c.ref

theorem Apart.letsBe {p : Program β} (h : c.Apart p) : c.LetsBe p :=
  fun _ hplaced => (Program.Avoids.run h hplaced).1

end Cursor

/-! ### Cursors that can be read -/

namespace Cursor

/-- **A cursor that can be read:** it is open if the last batch has announced more, and exhausted
otherwise, and no fetch of it is on its way. -/
structure Usable (c : Cursor α) (s : Scene) : Prop where
  channel : c.service.gateway.channel = some c.service.mode
  placed : c.ref < s.cursorCount
  prepared : (s.cursors c.ref).Prepared
  phase : (s.cursors c.ref).phase = if (s.cursors c.ref).hasMore then .live else .exhausted

variable {s s' : Scene} {b : Batch}

theorem Usable.live_iff (h : c.Usable s) :
    (s.cursors c.ref).phase = .live ↔ (s.cursors c.ref).hasMore = true := by
  rw [h.phase]
  cases (s.cursors c.ref).hasMore with
  | true => exact iff_of_true rfl rfl
  | false => exact iff_of_false Phase.noConfusion Bool.noConfusion

theorem Usable.ne_closed (h : c.Usable s) : (s.cursors c.ref).phase ≠ .closed := by
  rw [h.phase]
  cases (s.cursors c.ref).hasMore <;> exact Phase.noConfusion

/-- Handing out items leaves a cursor usable. -/
theorem Usable.taken (h : c.Usable s) {number : Nat} (hplaced : c.ref < s'.cursorCount)
    (hstate : s'.cursors c.ref = (s.cursors c.ref).taken number) : c.Usable s' where
  channel := h.channel
  placed := hplaced
  prepared := by
    rw [hstate]
    exact h.prepared.taken number
  phase := by
    rw [hstate]
    exact h.phase

/-- So does the arrival of a batch, where one was announced. -/
theorem Usable.landed (h : c.Usable s) (hlive : (s.cursors c.ref).phase = .live)
    (hlegible : b.Legible) (hplaced : c.ref < s'.cursorCount)
    (hstate : s'.cursors c.ref = (s.cursors c.ref).landed b) : c.Usable s' where
  channel := h.channel
  placed := hplaced
  prepared := by
    rw [hstate]
    exact h.prepared.landed hlive
  phase := by
    have hopen : ((s.cursors c.ref).received b).phase ≠ .closed := h.ne_closed
    rw [hstate, CursorState.landed_of_legible hlegible]
    exact CursorState.settled_of_open hopen b

end Cursor

/-- **The cursor of a query is usable** on its own, whatever is done with it before it is closed. -/
theorem Database.cursor_usable {d : Database} {q : Query} {mapper : Mapper α}
    {request timeout : Option Int} {s s₁ : Scene}
    (hopen : (d.cursor q mapper request timeout).run s = (.ok c, s₁)) {p : Program β}
    (hp : c.Client p) (hphase : ((p.run s₁).2.cursors c.ref).phase ≠ .closed) :
    c.Usable (p.run s₁).2 := by
  obtain ⟨hservice, -, first, hfresh, hnamed⟩ := cursor_named hopen
  obtain ⟨L, hstate, hphased, -⟩ := hfresh.phased hnamed hp
  refine ⟨channel_of_service hservice, ?_, hfresh.prepared hnamed hp, ?_⟩
  · exact Nat.lt_of_lt_of_le hfresh.placed (p.cursorCount_le_run s₁)
  · rw [hstate] at hphase ⊢
    cases hp : L.state.phase with
    | live =>
      rw [(hphased.live hp).2]
      rfl
    | exhausted =>
      rw [hphased.exhausted hp]
      rfl
    | closed => exact absurd hp hphase

/-! ### Fetches that end well -/

/-- What a fetch makes of an outcome, the outcome brings. -/
theorem Cursor.brings_of_answer {id : String} {limit : TimeLimit} {o : Outcome} {b : Batch}
    (h : c.answer id limit o = .ok b) : o.Brings b := by
  unfold answer at h
  unfold Outcome.Brings Outcome.batch?
  cases hplayback : o.playback with
  | response status headers body =>
    rw [hplayback] at h
    change (Envelope.read (Response.ofParts status headers body) _).bind Batch.ofEnvelope = _ at h
    cases hread : Envelope.read (Response.ofParts status headers body)
        (some (c.service.gateway.callDescription (QueryService.cursorCall "PUT" id limit))) with
    | ok envelope =>
      rw [hread] at h
      change ((Envelope.read _ none).bind Batch.ofEnvelope).toOption = some b
      rw [Envelope.read_renamed hread]
      exact congrArg Except.toOption h
    | error e =>
      rw [hread] at h
      cases h
  | lost text =>
    rw [hplayback] at h
    cases h
  | timedOut part text =>
    rw [hplayback] at h
    cases h
  | broken text =>
    rw [hplayback] at h
    cases h

/-- An outcome brings one batch only. -/
theorem Outcome.Brings.unique {o : Outcome} {b b' : Batch} (h : o.Brings b) (h' : o.Brings b') :
    b = b' :=
  Option.some.inj (h.symm.trans h')

/-- Behind the end of the script nothing is brought, so that what is brought is taken from it. -/
theorem Cursor.Asked.shorter {s s' : Scene} {b : Batch} (h : c.Asked s s')
    (hbrings : (s.script.headD .scriptEnd).Brings b) : s'.script.length < s.script.length := by
  obtain ⟨id, limit, hexchanged⟩ := h
  rw [hexchanged.script]
  cases hscript : s.script with
  | nil =>
    rw [hscript] at hbrings
    cases hbrings
  | cons o more => exact Nat.lt_succ_self _

/-- **A fetch that ends well** has asked for the next batch, and the batch has arrived. -/
theorem Cursor.Usable.fetched {d : Deadline} {s s' : Scene} (h : c.Usable s)
    (hneeds : (s.cursors c.ref).needsFetch = true)
    (hrun : (c.fetchNext (some d)).run s = (.ok (), s')) :
    ∃ b, (s.script.headD .scriptEnd).Brings b ∧ b.Legible ∧
      s'.cursors c.ref = (s.cursors c.ref).landed b ∧ c.Asked s s' := by
  have hlive : (s.cursors c.ref).phase = .live := (needsFetch_iff.1 hneeds).2
  have hname := h.prepared.named hlive
  obtain ⟨id, hid⟩ := Option.isSome_iff_exists.1 hname
  cases hlimit : c.limitAt (some d) s.now with
  | error e =>
    -- without a limit there would have been no fetch
    have hdue : c.Due s := ⟨hneeds, h.prepared.idle, hname⟩
    cases Program.run_of_wp (w := ()) (wp_fetchNext_late hdue hlimit) hrun
  | ok limit =>
    obtain ⟨hfetched, hexchanged⟩ := Program.run_of_wp (w := ())
      (wp_fetchNext_answer h.channel hlimit h.prepared hid) hrun
    unfold Cursor.fetched at hfetched
    cases hanswer : c.answer id limit (s.send (c.request "PUT" id limit none)).1 with
    | error e =>
      rw [hanswer] at hfetched
      cases hfetched
    | ok b =>
      rw [hanswer] at hfetched
      obtain ⟨hwarned, hstate⟩ := Prod.mk.inj hfetched
      refine ⟨b, brings_of_answer hanswer, ?_, hstate, id, limit, hexchanged⟩
      obtain ⟨hlegible, -⟩ | ⟨-, hbroken⟩ := b.warned_eq
      · exact hlegible
      · rw [hbroken] at hwarned
        cases hwarned

/-! ### Courses -/

namespace Batch

/-- Whether the last of some batches announces more. Where there is none, it is as before. -/
def announcing (before : Bool) (batches : List Batch) : Bool :=
  (batches.getLast?.map hasMore).getD before

variable (before : Bool) (held : List Value) (batches : List Batch) (b : Batch)

@[simp] theorem announcing_concat : announcing before (batches ++ [b]) = b.hasMore := by
  simp [announcing]

theorem ahead_concat : ahead held (batches ++ [b]) = ahead held batches ++ b.results := by
  simp [ahead]

end Batch

namespace Cursor

/-- **The course of the calls of a callback,** as far as it has come since a scene: the batches that
have been fetched, and the values that the callback has been called on. A batch is fetched where
nothing is held and the cursor is live; otherwise the item in front is handed out, and the callback
is called on it, which has not returned `False` so far. -/
inductive Course (c : Cursor α) (d : Deadline) (callback : α → Program Value) (s₀ : Scene) :
    List Batch → List α → Scene → Prop
  | start : Course c d callback s₀ [] [] s₀
  | fetched {batches : List Batch} {calls : List α} {b : Batch} {s s' : Scene} :
      Course c d callback s₀ batches calls s → (s.cursors c.ref).needsFetch = true →
      (c.fetchNext (some d)).run s = (.ok (), s') → (s.script.headD .scriptEnd).Brings b →
      c.Asked s s' → Course c d callback s₀ (batches ++ [b]) calls s'
  | called {batches : List Batch} {calls : List α} {item : Value} {a : α} {v : Value}
      {s s' : Scene} :
      Course c d callback s₀ batches calls s → (s.cursors c.ref).buffer.head? = some item →
      c.mapper item = .ok a → (callback a).run (s.changeCursor c.ref (.taken 1)) = (.ok v, s') →
      v ≠ .bool false → Course c d callback s₀ batches (calls ++ [a]) s'

/-- **How a course ends:** the callback is called on a last value, and either returns `False` or
fails; or there are no items any more, and no batches to be fetched. -/
inductive Ending (c : Cursor α) (callback : α → Program Value) (s : Scene) :
    List α → Scene → Prop
  | stopped {item : Value} {a : α} {r : Except Failure Value} {s' : Scene} :
      (s.cursors c.ref).buffer.head? = some item → c.mapper item = .ok a →
      (callback a).run (s.changeCursor c.ref (.taken 1)) = (r, s') →
      (∀ v, r = .ok v → v = .bool false) → Ending c callback s [a] s'
  | finished : (s.cursors c.ref).buffer = [] → (s.cursors c.ref).phase ≠ .live →
      Ending c callback s [] (s.changeCursor c.ref (.taken 1))

/-- **Nothing fails on the way** but the callback: wherever a course comes to, a fetch that is
needed ends well, and the item in front is accepted. -/
structure Smooth (c : Cursor α) (d : Deadline) (callback : α → Program Value) (s₀ : Scene) :
    Prop where
  fetches : ∀ {batches : List Batch} {calls : List α} {s : Scene},
    c.Course d callback s₀ batches calls s → (s.cursors c.ref).needsFetch = true →
      ((c.fetchNext (some d)).run s).1 = .ok ()
  accepts : ∀ {batches : List Batch} {calls : List α} {s : Scene} {item : Value},
    c.Course d callback s₀ batches calls s → (s.cursors c.ref).buffer.head? = some item →
      ∃ a, c.mapper item = .ok a

/-- **Where a course stands:** what has been visited of the items of the batches, and that each of
the batches was only fetched when all items before it had been visited. -/
structure Stands (c : Cursor α) (s₀ : Scene) (batches : List Batch) (calls : List α) (s : Scene) :
    Prop where
  usable : c.Usable s
  more : (s.cursors c.ref).hasMore = Batch.announcing (s₀.cursors c.ref).hasMore batches
  visited : ∃ items, Batch.ahead (s₀.cursors c.ref).buffer batches =
    items ++ (s.cursors c.ref).buffer ∧ items.map c.mapper = calls.map .ok
  consumed : (s.cursors c.ref).consumed = (s₀.cursors c.ref).consumed + calls.length
  needed : ∀ n < batches.length,
    Batch.announcing (s₀.cursors c.ref).hasMore (batches.take n) = true ∧
      (Batch.ahead (s₀.cursors c.ref).buffer (batches.take n)).length ≤ calls.length

section Courses

variable {d : Deadline} {callback : α → Program Value} {s₀ s s' : Scene} {batches : List Batch}
  {calls last : List α} {b : Batch} {item : Value} {a : α}

/-- Nothing has been visited yet. -/
theorem Stands.start (h : c.Usable s₀) : c.Stands s₀ [] [] s₀ where
  usable := h
  more := rfl
  visited := ⟨[], List.append_nil _, rfl⟩
  consumed := rfl
  needed n hn := absurd hn (Nat.not_lt_zero n)

/-- All items that have been visited are before the next batch, and nothing else is. -/
theorem Stands.length_ahead (h : c.Stands s₀ batches calls s)
    (hbuffer : (s.cursors c.ref).buffer = []) :
    (Batch.ahead (s₀.cursors c.ref).buffer batches).length = calls.length := by
  obtain ⟨items, hahead, hitems⟩ := h.visited
  have hlength := congrArg List.length hitems
  rw [List.length_map, List.length_map] at hlength
  rw [hahead, hbuffer, List.append_nil, hlength]

/-- A batch is fetched. -/
theorem Stands.fetched (h : c.Stands s₀ batches calls s)
    (hneeds : (s.cursors c.ref).needsFetch = true)
    (hrun : (c.fetchNext (some d)).run s = (.ok (), s'))
    (hbrings : (s.script.headD .scriptEnd).Brings b) : c.Stands s₀ (batches ++ [b]) calls s' := by
  obtain ⟨hbuffer, hlive⟩ := needsFetch_iff.1 hneeds
  obtain ⟨b', hbrings', hlegible, hstate, -⟩ := h.usable.fetched hneeds hrun
  obtain rfl := hbrings.unique hbrings'
  have hplaced : c.ref < s'.cursorCount := by
    have hcount := (c.fetchNext (some d)).cursorCount_le_run s
    rw [hrun] at hcount
    exact Nat.lt_of_lt_of_le h.usable.placed hcount
  have hsettled : s'.cursors c.ref = ((s.cursors c.ref).received b).settled b := by
    rw [hstate, CursorState.landed_of_legible hlegible]
  refine ⟨h.usable.landed hlive hlegible hplaced hstate, ?_, ?_, ?_, ?_⟩
  · rw [hsettled, Batch.announcing_concat]
    rfl
  · obtain ⟨items, hahead, hitems⟩ := h.visited
    refine ⟨items, ?_, hitems⟩
    have harrived : (s'.cursors c.ref).buffer = (s.cursors c.ref).buffer ++ b.results := by
      rw [hsettled]
      rfl
    rw [Batch.ahead_concat, hahead, harrived, List.append_assoc]
  · rw [hsettled]
    exact h.consumed
  · intro n hn
    rw [List.length_append, List.length_singleton] at hn
    by_cases hbefore : n < batches.length
    · rw [List.take_append_of_le_length (Nat.le_of_lt hbefore)]
      exact h.needed n hbefore
    · -- this is the batch that has just been fetched
      obtain rfl : n = batches.length := by omega
      rw [List.take_left]
      exact ⟨h.more ▸ h.usable.live_iff.1 hlive, Nat.le_of_eq (h.length_ahead hbuffer)⟩

/-- What a callback that lets the cursor be is called on has been handed out, and that is all. -/
theorem Usable.visited {r : Except Failure Value} (h : c.Usable s) (hlets : c.LetsBe (callback a))
    (hrun : (callback a).run (s.changeCursor c.ref (.taken 1)) = (r, s')) :
    c.Usable s' ∧ s'.cursors c.ref = (s.cursors c.ref).taken 1 := by
  let taken := s.changeCursor c.ref (.taken 1)
  have hplaced : c.ref < taken.cursorCount := h.placed
  have hstate : s'.cursors c.ref = (s.cursors c.ref).taken 1 := by
    have hsame := hlets taken hplaced
    rw [hrun] at hsame
    exact hsame.trans (s.changeCursor_cursors_self c.ref _)
  have hcount := (callback a).cursorCount_le_run taken
  rw [hrun] at hcount
  exact ⟨h.taken (Nat.lt_of_lt_of_le hplaced hcount) hstate, hstate⟩

/-- An item is visited. -/
theorem Stands.called (h : c.Stands s₀ batches calls s)
    (hbuffer : (s.cursors c.ref).buffer.head? = some item) (hitem : c.mapper item = .ok a)
    (husable : c.Usable s') (hstate : s'.cursors c.ref = (s.cursors c.ref).taken 1) :
    c.Stands s₀ batches (calls ++ [a]) s' := by
  obtain ⟨rest, hcons⟩ := List.head?_eq_some_iff.1 hbuffer
  have hlength : (calls ++ [a]).length = calls.length + 1 := List.length_append
  refine ⟨husable, ?_, ?_, ?_, ?_⟩
  · rw [hstate]
    exact h.more
  · obtain ⟨items, hahead, hitems⟩ := h.visited
    refine ⟨items ++ [item], ?_, ?_⟩
    · rw [hahead, hstate, hcons, List.append_assoc]
      show items ++ item :: rest = items ++ ([item] ++ (s.cursors c.ref).buffer.drop 1)
      rw [hcons]
      rfl
    · rw [List.map_append, List.map_append, hitems, List.map_singleton, List.map_singleton, hitem]
  · rw [hstate, hlength]
    show (s.cursors c.ref).consumed + ((s.cursors c.ref).buffer.take 1).length = _
    rw [hcons, h.consumed]
    exact Nat.add_assoc _ _ 1
  · intro n hn
    obtain ⟨hmore, hle⟩ := h.needed n hn
    rw [hlength]
    exact ⟨hmore, Nat.le_succ_of_le hle⟩

section Invariant

variable (husable : c.Usable s₀) (hlets : ∀ a, c.LetsBe (callback a))

include husable hlets

/-- **What the steps of a course preserve** holds wherever it has come to. -/
theorem Course.stands (h : c.Course d callback s₀ batches calls s) :
    c.Stands s₀ batches calls s := by
  induction h with
  | start => exact .start husable
  | fetched _ hneeds hrun hbrings _ ih => exact ih.fetched hneeds hrun hbrings
  | called _ hbuffer hitem hrun _ ih =>
    obtain ⟨hafter, hstate⟩ := ih.usable.visited (hlets _) hrun
    exact ih.called hbuffer hitem hafter hstate

end Invariant

/-! ### Ends -/

/-- What is visited last was in front, and if nothing is, nothing was held. -/
theorem Ending.front (h : c.Ending callback s last s') :
    ∃ rest, (s.cursors c.ref).buffer = (s.cursors c.ref).buffer.take 1 ++ rest ∧
      ((s.cursors c.ref).buffer.take 1).map c.mapper = last.map .ok ∧ (last = [] → rest = []) := by
  cases h with
  | @stopped item a _ _ hhead hitem _ _ =>
    obtain ⟨rest, hcons⟩ := List.head?_eq_some_iff.1 hhead
    rw [hcons]
    refine ⟨rest, rfl, ?_, fun hnil => nomatch hnil⟩
    show [item].map c.mapper = [a].map .ok
    rw [List.map_singleton, List.map_singleton, hitem]
  | finished hbuffer _ =>
    rw [hbuffer]
    exact ⟨[], rfl, rfl, fun _ => rfl⟩

/-- It has been handed out, and that is all that has happened to the cursor. -/
theorem Ending.state (husable : c.Usable s) (hlets : ∀ a, c.LetsBe (callback a))
    (h : c.Ending callback s last s') : s'.cursors c.ref = (s.cursors c.ref).taken 1 := by
  cases h with
  | stopped _ _ hrun _ => exact (husable.visited (hlets _) hrun).2
  | finished _ _ => exact s.changeCursor_cursors_self c.ref _

end Courses

/-! ### Stocked cursors -/

section Stocked

variable {d : Deadline} {callback : α → Program Value} {s s₁ : Scene} {batches rest : List Batch}
  {calls : List α} {held : List Value} {passed : Nat} (hmapper : c.mapper.Total)
  (husable : c.Usable s) (hlets : ∀ a, c.LetsBe (callback a))
  (hquiet : ∀ a s, ((callback a).run s).2.script = s.script ∧ ((callback a).run s).2.now = s.now)
  (h : c.Stocked held passed rest s) (hlasts : d.Lasts c.requestLimit s)

include hmapper husable hlets hquiet h hlasts

/-- A course keeps a cursor stocked, if the callback takes neither time nor anything else from the
script. -/
theorem Course.stocked (hcourse : c.Course d callback s batches calls s₁) :
    ∃ held' passed' rest', c.Stocked held' passed' rest' s₁ ∧ d.Lasts c.requestLimit s₁ := by
  induction hcourse with
  | start => exact ⟨held, passed, rest, h, hlasts⟩
  | @fetched _ _ _ s₁ s₂ hcourse hneeds hrun _ hasked ih =>
    obtain ⟨held', passed', rest', hstocked, hlasts'⟩ := ih
    obtain ⟨rfl, hrest⟩ := hstocked.state.needsFetch.1 hneeds
    obtain ⟨b, rest', rfl⟩ := List.exists_cons_of_ne_nil hrest
    have hnext := Program.run_of_wp (w := ()) (hstocked.wp_fetchNext husable.channel
      (fun _ hd => Option.some.inj hd ▸ hlasts')) hrun
    exact ⟨_, _, _, hnext.2.1, hlasts'.later hasked.later⟩
  | @called _ _ item a _ s₁ s₂ hcourse hhead hitem hrun _ ih =>
    obtain ⟨held', passed', rest', hstocked, hlasts'⟩ := ih
    obtain ⟨-, hstate⟩ := (hcourse.stands husable hlets).usable.visited (hlets a) hrun
    obtain ⟨hscript, hnow⟩ := hquiet a (s₁.changeCursor c.ref (.taken 1))
    rw [hrun] at hscript hnow
    obtain ⟨items, hitems⟩ := Mapper.convert_of_accepts passed' (hmapper.accepts (held'.take 1))
    have htaken := hstocked.take hitems
    refine ⟨held'.drop 1, passed' + (held'.take 1).length, rest', ⟨?_, htaken.paged, ?_⟩, ?_⟩
    · have hafter := htaken.state
      rw [Scene.changeCursor_cursors_self] at hafter
      rw [hstate]
      exact hafter
    · rw [hscript]
      exact htaken.served
    · intro number
      have htime : s₂.timeAfter number = s₁.timeAfter number := by
        unfold Scene.timeAfter
        rw [hscript, hnow]
        rfl
      rw [htime]
      exact hlasts' number

/-- **A stocked cursor is read smoothly** under a deadline that lasts. -/
theorem Stocked.smooth : c.Smooth d callback s where
  fetches hcourse hneeds := by
    obtain ⟨held', passed', rest', hstocked, hlasts'⟩ :=
      hcourse.stocked hmapper husable hlets hquiet h hlasts
    obtain ⟨rfl, hrest⟩ := hstocked.state.needsFetch.1 hneeds
    obtain ⟨b, rest', rfl⟩ := List.exists_cons_of_ne_nil hrest
    exact ((Program.wp_alone (w := ()) _).1 (hstocked.wp_fetchNext husable.channel
      (fun _ hd => Option.some.inj hd ▸ hlasts'))).1
  accepts _ _ := hmapper _

end Stocked

end Cursor

/-- **The cursor of a query that is served** is usable and stocked. -/
theorem Database.cursor_served (d : Database) {q : Query} {mapper : Mapper α}
    (request timeout : Option Int) {first : Batch} {rest : List Batch} {body : Option String}
    {s : Scene} (hbody : (Value.ofNamed q.payload).encodePayload = .ok body)
    (hpaged : Batch.Paged (first :: rest)) (hserved : mapper.Serves (first :: rest) s.script) :
    ∃ c s₁, (d.cursor q mapper request timeout).run s = (.ok c, s₁) ∧ c.mapper = mapper ∧
      c.requestLimit = (d.session.limit request timeout).request ∧
      c.overallLimit = d.session.options.timeouts.general ∧ c.Usable s₁ ∧
      c.Stocked first.results 0 rest s₁ := by
  obtain ⟨c, hc, -, hmapper, hrequest, hoverall, hstocked, -⟩ := (Program.wp_alone (w := ()) _).1
    (wp_made_stocked (d := d) hbody hpaged hserved)
  have hopen : (d.cursor q mapper request timeout).run s =
      (.ok c, ((d.cursor q mapper request timeout).run s).2) := Prod.ext hc rfl
  have husable := cursor_usable hopen (p := (pure () : Program Unit)) (.apart trivial)
    hstocked.ne_closed
  exact ⟨c, _, hopen, hmapper, hrequest, hoverall, husable, hstocked⟩

end AqlClient
