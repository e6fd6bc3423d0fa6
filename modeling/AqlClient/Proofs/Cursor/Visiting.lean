import AqlClient.Proofs.Cursor.Calls

/-!
# Calling a function on each item

A callback is called on the items of a cursor one by one, in the order of the server, until it
returns `False` or fails, or until there are no more items (`Cursor.forEach_visits`).

The loop follows the course of the calls to its end. It does not run out of rounds before, since
each fetch uses up some of the script (`Cursor.Course.fetch`) and each round visits one item more
than the buffer holds. What the loop comes to is therefore an end of the course
(`Cursor.Concludes`), whatever the callback has done. Behind it the cursor is closed, and all that
happens then is a release, if the last batch has announced more (`Cursor.Closes`).
-/

namespace AqlClient

variable {α β ω : Type} {c : Cursor α}

/-! ### The loop -/

namespace Cursor

/-- A course has come to its end. -/
def Concludes (c : Cursor α) (d : Deadline) (callback : α → Program Value) (s₀ s' : Scene) :
    Prop :=
  ∃ batches calls last s₁, c.Course d callback s₀ batches calls s₁ ∧
    c.Ending callback s₁ last s'

/-- **What a pull comes to:** the item in front, for which some of the script has been used up
unless it was held already, or nothing where a course ends. -/
inductive Draws (c : Cursor α) (d : Deadline) (callback : α → Program Value) (s₀ : Scene)
    (calls : List α) (s : Scene) : Except Failure (Option α) → Scene → Prop
  | item {batches : List Batch} {item : Value} {a : α} {s₁ : Scene} :
      c.Course d callback s₀ batches calls s₁ → (s₁.cursors c.ref).buffer.head? = some item →
      c.mapper item = .ok a → s₁ = s ∨ s₁.script.length < s.script.length →
      Draws c d callback s₀ calls s (.ok (some a)) (s₁.changeCursor c.ref (.taken 1))
  | ended {batches : List Batch} {s₁ : Scene} :
      c.Course d callback s₀ batches calls s₁ → (s₁.cursors c.ref).buffer = [] →
      (s₁.cursors c.ref).phase ≠ .live →
      Draws c d callback s₀ calls s (.ok none) (s₁.changeCursor c.ref (.taken 1))

/-- **What a number of visits come to:** they may go on, and if they were more than there were
items in the buffer, some of the script has been used up; or the course has come to its end. -/
inductive Proceeds (c : Cursor α) (d : Deadline) (callback : α → Program Value) (s₀ : Scene)
    (number : Nat) (s : Scene) : Except Failure Bool → Scene → Prop
  | goesOn {batches : List Batch} {calls : List α} {s' : Scene} :
      c.Course d callback s₀ batches calls s' → s'.script.length ≤ s.script.length →
      ((s.cursors c.ref).buffer.length < number → s'.script.length < s.script.length) →
      Proceeds c d callback s₀ number s (.ok true) s'
  | ended {r : Except Failure Bool} {s' : Scene} : r ≠ .ok true → c.Concludes d callback s₀ s' →
      Proceeds c d callback s₀ number s r s'

section Loop

variable {d : Deadline} {callback : α → Program Value} {s₀ s s' : Scene} {batches : List Batch}
  {calls : List α} {item : Value} {a : α}

/-- A callback goes on with anything but `False`. -/
theorem map_isFalse_iff {r : Except Failure Value} :
    (r.map fun v => !v.isFalse) = .ok true ↔ ∃ v, r = .ok v ∧ v ≠ .bool false := by
  cases r with
  | error e => exact iff_of_false (fun h => nomatch h) fun h => nomatch h.choose_spec.1
  | ok v =>
    have hv : v.isFalse = true ↔ v = .bool false := by
      cases v with
      | bool b => cases b <;> simp [Value.isFalse]
      | _ => simp [Value.isFalse]
    simp [Except.map, ← hv]

/-- A callback says whether to go on by what it returns. -/
theorem wp_untilFalse {D : Discipline ω} {Q : Except Failure Bool → ω → Scene → Prop} {w : ω} :
    (untilFalse callback a).wp D Q w s ↔
      (callback a).wp D (fun r w s => Q (r.map fun v => !v.isFalse) w s) w s := by
  have hresult : ∀ (r : Except Failure Value) w s,
      Program.chain D (fun v => (pure (!v.isFalse) : Program Bool)) Q r w s ↔
        Q (r.map fun v => !v.isFalse) w s := by
    intro r w s
    cases r <;> exact Iff.rfl
  unfold untilFalse
  rw [Program.wp_bind]
  constructor
  · intro h
    exact Program.wp_mono h fun r w s => (hresult r w s).1
  · intro h
    exact Program.wp_mono h fun r w s => (hresult r w s).2

/-- One more visit is made in front of others. -/
theorem Proceeds.cons {number : Nat} {s₁ s₂ : Scene} {r : Except Failure Bool}
    (hless : s₁ = s ∨ s₁.script.length < s.script.length)
    (hbuffer : (s₁.cursors c.ref).buffer ≠ [])
    (hstate : s₂.cursors c.ref = (s₁.cursors c.ref).taken 1)
    (hscript : s₂.script.length ≤ s₁.script.length)
    (h : c.Proceeds d callback s₀ number s₂ r s') :
    c.Proceeds d callback s₀ (number + 1) s r s' := by
  cases h with
  | ended hstops hend => exact .ended hstops hend
  | goesOn hcourse hle hlt =>
    obtain rfl | hless := hless
    · refine .goesOn hcourse (Nat.le_trans hle hscript) ?_
      intro hnumber
      -- the item was held, so that the others have to be looked for behind it
      have hlength : (s₂.cursors c.ref).buffer.length = (s₁.cursors c.ref).buffer.length - 1 := by
        rw [hstate]
        exact List.length_drop
      have hpos := List.length_pos_iff.2 hbuffer
      have := hlt (by omega)
      omega
    · exact .goesOn hcourse (by omega) fun _ => by omega

section Rounds

variable (husable : c.Usable s₀) (hlets : ∀ a, c.LetsBe (callback a))
  (hsmooth : c.Smooth d callback s₀)

include husable hlets hsmooth

/-- **A fetch takes a course further,** and uses up some of the script. -/
theorem Course.fetch (h : c.Course d callback s₀ batches calls s)
    (hneeds : (s.cursors c.ref).needsFetch = true) :
    ∃ b s', (c.fetchNext (some d)).run s = (.ok (), s') ∧
      c.Course d callback s₀ (batches ++ [b]) calls s' ∧ s'.script.length < s.script.length := by
  have hrun : (c.fetchNext (some d)).run s = (.ok (), ((c.fetchNext (some d)).run s).2) :=
    Prod.ext (hsmooth.fetches h hneeds) rfl
  obtain ⟨b, hbrings, -, -, hasked⟩ := (h.stands husable hlets).usable.fetched hneeds hrun
  exact ⟨b, _, hrun, h.fetched hneeds hrun hbrings hasked, hasked.shorter hbrings⟩

/-- Looking for an item goes on until there is one, or no batch is to come. -/
theorem Course.wp_fillWithin {rounds : Nat} (h : c.Course d callback s₀ batches calls s)
    (hrounds : s.script.length < rounds) :
    (c.fillWithin (some d) rounds).wp .alone (fun r _ s' => r = .ok () ∧
      (∃ batches', c.Course d callback s₀ batches' calls s') ∧
      ¬ (s'.cursors c.ref).needsFetch = true ∧
      (s' = s ∨ s'.script.length < s.script.length)) () s := by
  -- on the rounds: a batch may be empty, but it uses up some of the script
  induction rounds generalizing batches s with
  | zero => exact absurd hrounds (Nat.not_lt_zero _)
  | succ n ih =>
    unfold fillWithin
    rw [wp_look]
    by_cases hneeds : (s.cursors c.ref).needsFetch = true
    · rw [if_pos hneeds]
      obtain ⟨b, s₁, hrun, hcourse, hshorter⟩ := h.fetch husable hlets hsmooth hneeds
      have hleft : s₁.script.length < n := by omega
      rw [Program.wp_bind, Program.wp_alone, hrun, Program.chain_ok]
      refine Program.wp_mono (ih hcourse hleft) ?_
      intro r _ s' hend
      obtain ⟨hr, hreached, hfound, hless⟩ := hend
      refine ⟨hr, hreached, hfound, .inr ?_⟩
      obtain rfl | hless := hless
      · exact hshorter
      · exact Nat.lt_trans hless hshorter
    · rw [if_neg hneeds]
      exact ⟨rfl, ⟨batches, h⟩, hneeds, .inl rfl⟩

theorem Course.wp_pullUnder (h : c.Course d callback s₀ batches calls s) :
    (c.pullUnder d).wp .alone (fun r _ s' => c.Draws d callback s₀ calls s r s') () s := by
  have hrounds : s.script.length < s.horizon := Nat.lt_add_of_pos_right (by decide)
  have hfill := h.wp_fillWithin husable hlets hsmooth hrounds
  unfold pullUnder
  refine Program.wp_seq (p := c.fill (some d)) hfill ?_ ?_
  · intro _ w s₁ hfilled
    obtain ⟨-, ⟨batches', hcourse⟩, hfound, hless⟩ := hfilled
    unfold pop?
    rw [Program.wp_bind, wp_handOut]
    cases hbuffer : (s₁.cursors c.ref).buffer with
    | nil =>
      refine .ended hcourse hbuffer ?_
      intro hlive
      exact hfound (needsFetch_iff.2 ⟨hbuffer, hlive⟩)
    | cons item rest =>
      have hhead : (s₁.cursors c.ref).buffer.head? = some item := by rw [hbuffer]; rfl
      obtain ⟨a, hitem⟩ := hsmooth.accepts hcourse hhead
      have hone : c.mapper.convert (s₁.cursors c.ref).consumed ((item :: rest).take 1) =
          .ok [a] := by
        show c.mapper.convert _ [item] = _
        rw [Mapper.convert_cons_ok hitem]
        rfl
      rw [hone]
      exact .item hcourse hhead hitem hless
  · intro e _ _ hfailed
    cases hfailed.1

omit hsmooth in
/-- **A visit takes a course further,** or to its end. -/
theorem Course.wp_visit (h : c.Course d callback s₀ batches calls s)
    (hhead : (s.cursors c.ref).buffer.head? = some item) (hitem : c.mapper item = .ok a) :
    (untilFalse callback a).wp .alone (fun r _ s' =>
      (r = .ok true → c.Course d callback s₀ batches (calls ++ [a]) s' ∧
        s'.cursors c.ref = (s.cursors c.ref).taken 1 ∧ s'.script.length ≤ s.script.length) ∧
      (r ≠ .ok true → c.Concludes d callback s₀ s')) () (s.changeCursor c.ref (.taken 1)) := by
  rw [wp_untilFalse, Program.wp_alone]
  cases hrun : (callback a).run (s.changeCursor c.ref (.taken 1)) with
  | mk r s' =>
    constructor
    · intro hon
      obtain ⟨v, rfl, hv⟩ := map_isFalse_iff.1 hon
      have hstate := ((h.stands husable hlets).usable.visited (hlets a) hrun).2
      exact ⟨h.called hhead hitem hrun hv, hstate, (Program.before_of_run hrun).length_le⟩
    · intro hstops
      refine ⟨batches, calls, [a], s, h, .stopped hhead hitem hrun ?_⟩
      intro v hr
      exact Classical.byContradiction fun hv => hstops (map_isFalse_iff.2 ⟨v, hr, hv⟩)

/-- **Visits follow a course.** -/
theorem Course.wp_visitItems {number : Nat} (h : c.Course d callback s₀ batches calls s) :
    (visitItems (c.pullUnder d) (untilFalse callback) number).wp .alone
      (fun r _ s' => c.Proceeds d callback s₀ number s r s') () s := by
  -- on the visits: the first one is a step of the course, and the others go on behind it
  induction number generalizing batches calls s with
  | zero => exact .goesOn h (Nat.le_refl _) fun hnumber => absurd hnumber (Nat.not_lt_zero _)
  | succ n ih =>
    unfold visitItems
    refine Program.wp_seq (h.wp_pullUnder husable hlets hsmooth) ?_ ?_
    · intro a? _ s' hdrawn
      have hfalse : (.ok false : Except Failure Bool) ≠ .ok true := by
        intro heq
        cases heq
      cases hdrawn with
      | ended hcourse hbuffer hphase =>
        exact .ended hfalse ⟨_, _, _, _, hcourse, .finished hbuffer hphase⟩
      | @item batches' item a s₁ hcourse hhead hitem hless =>
        refine Program.wp_seq (hcourse.wp_visit husable hlets hhead hitem) ?_ ?_
        · intro on _ s₂ hvisited
          cases on with
          | false => exact .ended hfalse (hvisited.2 hfalse)
          | true =>
            obtain ⟨hnext, hstate, hscript⟩ := hvisited.1 rfl
            have hheld : (s₁.cursors c.ref).buffer ≠ [] := fun hnil => by
              rw [hnil] at hhead
              cases hhead
            exact Program.wp_mono (ih hnext) fun _ _ _ hend =>
              hend.cons hless hheld hstate hscript
        · intro e _ s₂ hvisited
          have hfailed : (.error e : Except Failure Bool) ≠ .ok true := by
            intro heq
            cases heq
          exact .ended hfailed (hvisited.2 hfailed)
    · intro e _ s' hdrawn
      cases hdrawn

/-- **The loop goes through a course to its end.** -/
theorem Course.wp_visitRounds {rounds : Nat} (h : c.Course d callback s₀ batches calls s)
    (hrounds : s.script.length < rounds) :
    (c.visitRounds (c.pullUnder d) (untilFalse callback) rounds).wp .alone
      (fun _ _ s' => c.Concludes d callback s₀ s') () s := by
  -- a round visits one item more than the buffer holds, so that it uses up some of the script
  induction rounds generalizing batches calls s with
  | zero => exact absurd hrounds (Nat.not_lt_zero _)
  | succ n ih =>
    unfold visitRounds
    rw [wp_look]
    refine Program.wp_seq (h.wp_visitItems husable hlets hsmooth) ?_ ?_
    · intro on _ s₁ hend
      cases hend with
      | goesOn hcourse _ hless =>
        have hleft : s₁.script.length < n := by
          have := hless (Nat.lt_succ_self _)
          omega
        exact ih hcourse hleft
      | ended hstops hconcludes =>
        cases on with
        | true => exact absurd rfl hstops
        | false => exact hconcludes
    · intro e _ s₁ hend
      cases hend with
      | ended _ hconcludes => exact hconcludes

theorem wp_visitAll_concludes :
    (c.visitAll (c.pullUnder d) (untilFalse callback)).wp .alone
      (fun _ _ s' => c.Concludes d callback s₀ s') () s₀ :=
  Course.wp_visitRounds husable hlets hsmooth .start (Nat.lt_add_of_pos_right (by decide))

end Rounds

end Loop

/-! ### The way out -/

/-- **What closing a cursor does,** whether it ends well or not: the cursor is closed, a release is
sent if one is due, and nothing else happens. -/
structure Closes (c : Cursor α) (s s' : Scene) : Prop where
  state : s'.cursors c.ref = (s.cursors c.ref).close
  idle : (s.cursors c.ref).toRelease = none → s.Still s'
  releases : ∀ id, (s.cursors c.ref).toRelease = some id →
    s.Exchanged (c.request "DELETE" id c.plainLimit none) s'

section Closing

variable {s : Scene} {w : ω} (hchannel : c.service.gateway.channel = some c.service.mode)

include hchannel

theorem wp_close_closes : c.close.wp .alone (fun _ _ s' => c.Closes s s') w s := by
  have hstate : (s.changeCursor c.ref .closed).cursors c.ref = (s.cursors c.ref).close :=
    s.changeCursor_cursors_self c.ref _
  have hstill : s.Still (s.changeCursor c.ref .closed) := (Scene.Still.refl s).change c.ref _
  unfold close
  rw [wp_look, wp_update]
  split
  case h_1 hnone =>
    refine ⟨hstate, fun _ => hstill, ?_⟩
    intro id hid
    rw [hnone] at hid
    cases hid
  case h_2 id hid =>
    refine Program.wp_mono (QueryService.wp_release_answer hchannel) ?_
    intro _ _ s' hanswer
    have hbehind := hanswer.2
    refine ⟨(congrFun hbehind.cursors c.ref).trans hstate, ?_, ?_⟩
    · intro hnone
      rw [hnone] at hid
      cases hid
    · intro id' hid'
      obtain rfl := Option.some.inj (hid'.symm.trans hid)
      exact hstill.exchanged hbehind.exchanged

omit hchannel in
theorem logless_closes : Logless fun (_ : ω) s' => c.Closes s s' := by
  intro _ s' level text h
  refine ⟨h.state, fun hnone => ?_, fun id hid => ?_⟩
  · obtain ⟨hscript, hnow, hjournal, hsent⟩ := h.idle hnone
    exact ⟨hscript, hnow, hjournal, hsent⟩
  · obtain ⟨hscript, htime, hjournal, hsent⟩ := h.releases id hid
    exact ⟨hscript, htime, hjournal, hsent⟩

/-- **A cursor is closed behind a program** in the scene that the program has left. -/
theorem wp_closing_closes (body : Program β) :
    (c.closing body).wp .alone (fun _ _ s' => c.Closes (body.run s).2 s') w s :=
  wp_closing_of logless_closes ((Program.wp_alone _).2 (wp_close_closes hchannel))

end Closing

/-! ### What is visited -/

/-- **What the calls of a callback come to** between two scenes: the batches that are fetched, the
values on which the callback goes on, and the last one if it stops there. -/
structure Visits (c : Cursor α) (d : Deadline) (callback : α → Program Value) (s : Scene)
    (batches : List Batch) (before last : List α) (s₁ s₂ s' : Scene) : Prop where
  course : c.Course d callback s batches before s₁
  ending : c.Ending callback s₁ last s₂
  /-- The callback is called on a prefix of the items, and on all of them unless it stops. -/
  order : ∃ items rest, Batch.ahead (s.cursors c.ref).buffer batches = items ++ rest ∧
    items.map c.mapper = (before ++ last).map .ok ∧ (last = [] → rest = [])
  /-- With fewer fetches the last item is not there yet, and more batches are announced. -/
  fewest : ∀ n < batches.length,
    Batch.announcing (s.cursors c.ref).hasMore (batches.take n) = true ∧
      (last ≠ [] → (Batch.ahead (s.cursors c.ref).buffer (batches.take n)).length <
        (before ++ last).length)
  /-- If the callback does not stop, all batches are fetched. -/
  whole : last = [] → Batch.announcing (s.cursors c.ref).hasMore batches = false
  consumed : (s'.cursors c.ref).consumed = (s.cursors c.ref).consumed + (before ++ last).length
  closed : (s'.cursors c.ref).phase = .closed
  /-- A release is sent behind the last call if the last batch has announced more. -/
  released : Batch.announcing (s.cursors c.ref).hasMore batches = true →
    ∃ id, (s₂.cursors c.ref).cursorId = some id ∧
      s₂.Exchanged (c.request "DELETE" id c.plainLimit none) s'
  /-- Otherwise nothing happens behind the last call. -/
  idle : Batch.announcing (s.cursors c.ref).hasMore batches = false → s₂.Still s'
  /-- If the callback itself has nothing to do with the cursors of the database, one request about
  them is sent for each batch, and one for the release. -/
  requests : (∀ a, c.Apart (callback a)) → ∃ fetches releases : List Request,
    s'.sent.filter c.concerns = s.sent.filter c.concerns ++ fetches ++ releases ∧
      fetches.length = batches.length ∧
      (∀ q ∈ fetches, ∃ id limit, q = c.request "PUT" id limit none) ∧
      releases.length = (if Batch.announcing (s.cursors c.ref).hasMore batches then 1 else 0) ∧
      ∀ q ∈ releases, ∃ id, q = c.request "DELETE" id c.plainLimit none

section Whole

variable {d : Deadline} {callback : α → Program Value} {s s₁ s₂ s' : Scene} {batches : List Batch}
  {before last : List α}

/-- A request for the cursor is one that concerns it. -/
theorem filter_concerns_concat (requests : List Request) (method id : String) (limit : TimeLimit) :
    (requests ++ [c.request method id limit none]).filter c.concerns =
      requests.filter c.concerns ++ [c.request method id limit none] := by
  rw [List.filter_append, List.filter_cons_of_pos (c.concerns_request method id limit none),
    List.filter_nil]

/-- A callback that keeps away from the cursor sends no request about it. -/
theorem Usable.filter_sent {a : α} {r : Except Failure Value} (h : c.Usable s)
    (hapart : c.Apart (callback a))
    (hrun : (callback a).run (s.changeCursor c.ref (.taken 1)) = (r, s')) :
    s'.sent.filter c.concerns = s.sent.filter c.concerns := by
  have hplaced : c.ref < (s.changeCursor c.ref (.taken 1)).cursorCount := h.placed
  have hsent := (Program.Avoids.run hapart hplaced).2
  rw [hrun, Scene.changeCursor_sent] at hsent
  exact hsent

/-- If the callback keeps away from the cursor, one request is sent for each batch. -/
theorem Course.fetches (husable : c.Usable s) (hapart : ∀ a, c.Apart (callback a))
    (h : c.Course d callback s batches before s₁) :
    ∃ fetches : List Request,
      s₁.sent.filter c.concerns = s.sent.filter c.concerns ++ fetches ∧
      fetches.length = batches.length ∧
      ∀ q ∈ fetches, ∃ id limit, q = c.request "PUT" id limit none := by
  have hlets : ∀ a, c.LetsBe (callback a) := fun a => (hapart a).letsBe
  induction h with
  | start => exact ⟨[], (List.append_nil _).symm, rfl, fun _ hq => nomatch hq⟩
  | fetched _ _ _ _ hasked ih =>
    obtain ⟨fetches, hsent, hlength, hfetches⟩ := ih
    obtain ⟨id, limit, hexchanged⟩ := hasked
    refine ⟨fetches ++ [c.request "PUT" id limit none], ?_, ?_, ?_⟩
    · rw [hexchanged.sent, filter_concerns_concat, hsent, List.append_assoc]
    · rw [List.length_append, List.length_append, hlength]
      rfl
    · intro q hq
      obtain hbefore | hlast := List.mem_append.1 hq
      · exact hfetches q hbefore
      · exact ⟨id, limit, List.mem_singleton.1 hlast⟩
  | called hcourse _ _ hrun _ ih =>
    rw [(hcourse.stands husable hlets).usable.filter_sent (hapart _) hrun]
    exact ih

theorem Ending.filter_sent (husable : c.Usable s₁) (hapart : ∀ a, c.Apart (callback a))
    (h : c.Ending callback s₁ last s₂) :
    s₂.sent.filter c.concerns = s₁.sent.filter c.concerns := by
  cases h with
  | stopped _ _ hrun _ => exact husable.filter_sent (hapart _) hrun
  | finished _ _ => rw [Scene.changeCursor_sent]

/-- The cursor that is to be released behind a course, by what its last batch has announced. -/
theorem Stands.toRelease (h : c.Stands s batches before s₁)
    (hstate : s₂.cursors c.ref = (s₁.cursors c.ref).taken 1) :
    (s₂.cursors c.ref).toRelease =
      if Batch.announcing (s.cursors c.ref).hasMore batches then (s₂.cursors c.ref).cursorId
      else none := by
  have hphase : (s₂.cursors c.ref).phase = (s₁.cursors c.ref).phase := by
    rw [hstate]
    rfl
  unfold CursorState.toRelease
  rw [hphase, h.usable.phase, h.more]
  cases Batch.announcing (s.cursors c.ref).hasMore batches <;> rfl

/-- **A course that has come to its end,** with the cursor closed behind it, has visited what it
should. -/
theorem Course.visits (husable : c.Usable s) (hlets : ∀ a, c.LetsBe (callback a))
    (hcourse : c.Course d callback s batches before s₁) (hending : c.Ending callback s₁ last s₂)
    (hcloses : c.Closes s₂ s') : c.Visits d callback s batches before last s₁ s₂ s' := by
  have hstands := hcourse.stands husable hlets
  have hstate := hending.state hstands.usable hlets
  have hrelease := hstands.toRelease hstate
  obtain ⟨items, hahead, hitems⟩ := hstands.visited
  obtain ⟨rest, hbuffer, hfront, hall⟩ := hending.front
  have hconsumed : (s'.cursors c.ref).consumed = (s₁.cursors c.ref).consumed + last.length := by
    have hlast := congrArg List.length hfront
    rw [List.length_map, List.length_map] at hlast
    rw [hcloses.state, hstate, ← hlast]
    rfl
  have hreleased : Batch.announcing (s.cursors c.ref).hasMore batches = true →
      ∃ id, (s₂.cursors c.ref).cursorId = some id ∧
        s₂.Exchanged (c.request "DELETE" id c.plainLimit none) s' := by
    intro hmore
    have hlive := hstands.usable.live_iff.2 (hstands.more.trans hmore)
    have hnamed : (s₂.cursors c.ref).cursorId.isSome = true := by
      rw [hstate]
      exact hstands.usable.prepared.named hlive
    obtain ⟨id, hid⟩ := Option.isSome_iff_exists.1 hnamed
    rw [hmore, if_pos rfl, hid] at hrelease
    exact ⟨id, hid, hcloses.releases id hrelease⟩
  have hidle : Batch.announcing (s.cursors c.ref).hasMore batches = false → s₂.Still s' := by
    intro hmore
    rw [hmore] at hrelease
    exact hcloses.idle hrelease
  refine ⟨hcourse, hending, ⟨items ++ (s₁.cursors c.ref).buffer.take 1, rest, ?_, ?_, hall⟩, ?_,
    ?_, ?_, ?_, hreleased, hidle, ?_⟩
  · rw [hahead, List.append_assoc, ← hbuffer]
  · rw [List.map_append, List.map_append, hitems, hfront]
  · intro n hn
    obtain ⟨hmore, hle⟩ := hstands.needed n hn
    refine ⟨hmore, fun hne => ?_⟩
    rw [List.length_append]
    have := List.length_pos_iff.2 hne
    omega
  · intro hnil
    -- there is no last value, so that nothing was held and the cursor was not live
    cases hending with
    | finished _ hphase =>
      rw [← hstands.more, ← Bool.not_eq_true, ← hstands.usable.live_iff]
      exact hphase
    | stopped _ _ _ _ => cases hnil
  · rw [hconsumed, hstands.consumed, List.length_append, Nat.add_assoc]
  · rw [hcloses.state]
    rfl
  · intro hapart
    obtain ⟨fetches, hsent, hlength, hfetches⟩ := hcourse.fetches husable hapart
    have hloop := (hending.filter_sent hstands.usable hapart).trans hsent
    cases hmore : Batch.announcing (s.cursors c.ref).hasMore batches with
    | false =>
      refine ⟨fetches, [], ?_, hlength, hfetches, rfl, fun _ hq => nomatch hq⟩
      rw [(hidle hmore).sent, hloop, List.append_nil]
    | true =>
      obtain ⟨id, -, hexchanged⟩ := hreleased hmore
      refine ⟨fetches, [c.request "DELETE" id c.plainLimit none], ?_, hlength, hfetches, rfl, ?_⟩
      · rw [hexchanged.sent, filter_concerns_concat, hloop]
      · intro q hq
        exact ⟨id, List.mem_singleton.1 hq⟩

end Whole

/-- A callback that notes what it is called on, and returns `False` once it has noted a number of
values. -/
def notingUntil (slot number : Nat) (a : Value) : Program Value := do
  Program.update (.noted slot a)
  let notes ← Program.view fun s => s.journal slot
  return .bool (notes.length < number)

/-- **A callback is called on the right prefix,** and no more is fetched than it takes. A cursor is
open or exhausted, nothing fails on the way but the callback, and the callback lets the cursor be.
Then the callback is called on the items that are left, in the order of the server, up to the first
one on which it returns `False` or fails, or on all of them. If it stops at an item, no fewer
fetches would have brought it; if it does not, all batches are fetched up to the one that announces
no more. The cursor has handed out as many items as there were calls, and it is closed, for which a
release is sent if and only if the last batch has announced more. -/
theorem forEach_visits {d : Deadline} {callback : α → Program Value} {s : Scene}
    {general timeout : Option Int} (husable : c.Usable s) (hlets : ∀ a, c.LetsBe (callback a))
    (hstart : Deadline.starting s.now (c.overall general timeout) (some generalTimeoutLabel) =
      .ok d)
    (hsmooth : c.Smooth d callback s) :
    ∃ batches before last s₁ s₂, c.Visits d callback s batches before last s₁ s₂
      ((c.forEach (untilFalse callback) general timeout).run s).2 := by
  have hloop := (Program.wp_alone _).1 (wp_visitAll_concludes husable hlets hsmooth)
  obtain ⟨batches, before, last, s₁, hcourse, hending⟩ := hloop
  refine ⟨batches, before, last, s₁, _, hcourse.visits husable hlets hending ?_⟩
  have hcloses : (c.forEach (untilFalse callback) general timeout).wp .alone
      (fun _ _ s' => c.Closes ((c.visitAll (c.pullUnder d) (untilFalse callback)).run s).2 s')
      () s := by
    rw [forEach_eq]
    unfold underDeadline
    rw [Program.wp_bind, wp_deadline, if_neg husable.ne_closed, hstart, Program.chain_ok]
    exact wp_closing_closes husable.channel _
  exact (Program.wp_alone _).1 hcloses

/-- A callback stops at the third of the items of three batches, the second of which is empty. -/
theorem forEach_visits_specimen : ∃ (c : Cursor Value) (d : Deadline) (s s₁ s₂ : Scene)
      (batches : List Batch) (before last : List Value),
    c.Usable s ∧ (∀ a, c.LetsBe (notingUntil 0 3 a)) ∧
    Deadline.starting s.now (c.overall none none) (some generalTimeoutLabel) = .ok d ∧
    c.Smooth d (notingUntil 0 3) s ∧
    c.Visits d (notingUntil 0 3) s batches before last s₁ s₂
      ((c.forEach (untilFalse (notingUntil 0 3)) none none).run s).2 := by
  obtain ⟨first, second, third, hpaged, -, -, hserves⟩ := Scene.served_pages
  obtain ⟨body, hbody⟩ := Query.specimen_written
  obtain ⟨c, s, -, hmapper, hrequest, hoverall, husable, hstocked⟩ :=
    Database.cursor_served (.specimen .async) none none hbody hpaged hserves
  -- nothing limits the methods of the cursor
  have hample : (c.overall none none).Ample s := by
    unfold overall
    rw [hoverall]
    exact .inl rfl
  have hcap : c.requestLimit.MayLimit := by
    rw [hrequest]
    exact fun u hu => nomatch hu
  obtain ⟨d, hstart, hpending⟩ :=
    Deadline.starting_of_ample s.moment_now hample (some generalTimeoutLabel)
  have hlets : ∀ a, c.LetsBe (notingUntil 0 3 a) := fun _ _ _ => rfl
  have hsmooth : c.Smooth d (notingUntil 0 3) s :=
    hstocked.smooth (hmapper ▸ Mapper.total_raw) husable hlets (fun _ _ => ⟨rfl, rfl⟩)
      (Deadline.lasts_of_pending hpending hcap)
  obtain ⟨batches, before, last, s₁, s₂, hvisits⟩ :=
    forEach_visits husable hlets hstart hsmooth
  exact ⟨c, d, s, s₁, s₂, batches, before, last, husable, hlets, hstart, hsmooth, hvisits⟩

end Cursor

end AqlClient
