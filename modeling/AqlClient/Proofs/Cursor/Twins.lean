import AqlClient.Proofs.Cursor.Exit
import AqlClient.Proofs.Program.Likeness

/-!
# Twin cursors

Two cursors with the same state are *twins* if they are kept at the same place and send requests
that look alike (`Cursor.Twin`). Whatever is done with both of them runs alike: they give the same
items, fail in the same ways and end in the same states.

The only place at which twins of different modes go different ways is a fetch. An asynchronous
cursor marks that a batch is on its way and takes the mark back behind the exchange
(`Cursor.marking`); the exchange itself does not look at it. So a fetch runs alike if no mark is set
where it begins, which is so between any two operations that are made one after the other
(`Likeness.Level`).

What twins under a deadline may be allowed for their next request is compared at the moments at
which the runs may find themselves (`Cursor.Timed`).
-/

namespace AqlClient

variable {α β γ : Type}

open Program (Alike)

/-! ### The states of all cursors -/

/-- All cursors are in the same states, and where runs may be of different modes no batch is on its
way. -/
def Likeness.Level (K : Likeness) (board board' : Nat → CursorState) : Prop :=
  board' = board ∧ (K.mixed → ∀ ref, (board ref).fetching = false)

/-- The states of all cursors are known. -/
def Likeness.Boards (x y : Nat → CursorState) (board board' : Nat → CursorState) : Prop :=
  board = x ∧ board' = y

/-- Nothing but its mark tells that a batch is on its way. -/
theorem CursorState.after_fetching (state : CursorState) {change : CursorChange}
    (h : ∀ on, change ≠ .fetching on) : (state.after change).fetching = state.fetching := by
  cases change with
  | fetching on => exact absurd rfl (h on)
  | _ => rfl

namespace Likeness.Scenes

variable {K : Likeness} {s s' : Scene}

/-- What happens to a cursor happens in both scenes. -/
theorem changeCursor (h : K.Scenes K.Level s s') (ref : Nat) {change : CursorChange}
    (hchange : ∀ on, change ≠ .fetching on) :
    K.Scenes K.Level (s.changeCursor ref change) (s'.changeCursor ref change) where
  now := h.now
  script := h.script
  history := h.history_append rfl
  cursors := by
    refine ⟨?_, fun hmixed r => ?_⟩
    · show (fun r => if r = ref then (s'.cursors ref).after change else s'.cursors r) = _
      rw [h.cursors.1]
      rfl
    · by_cases hr : r = ref
      · rw [hr, Scene.changeCursor_cursors_self, CursorState.after_fetching _ hchange]
        exact h.cursors.2 hmixed ref
      · rw [s.changeCursor_cursors_of_ne ref change hr]
        exact h.cursors.2 hmixed r
  cursorCount := h.cursorCount
  sessionCount := h.sessionCount
  closes := h.closes
  journal := h.journal
  moments := h.moments

/-- A place is given out in both scenes. -/
theorem addCursor (h : K.Scenes K.Level s s') : K.Scenes K.Level s.addCursor s'.addCursor where
  now := h.now
  script := h.script
  history := by
    refine h.history_append ?_
    rw [h.cursorCount]
  cursors := by
    refine ⟨?_, fun hmixed r => ?_⟩
    · show (fun r => if r = s'.cursorCount then CursorState.initial else s'.cursors r) = _
      rw [h.cursorCount, h.cursors.1]
      rfl
    · by_cases hr : r = s.cursorCount
      · rw [hr, Scene.addCursor_cursors_self]
        rfl
      · rw [s.addCursor_cursors_of_ne hr]
        exact h.cursors.2 hmixed r
  cursorCount := congrArg (· + 1) h.cursorCount
  sessionCount := h.sessionCount
  closes := h.closes
  journal := h.journal
  moments := h.moments

/-! The mark for a fetch is not seen, on either side. -/

section Marks

variable {C C' : (Nat → CursorState) → (Nat → CursorState) → Prop}

/-- The mark is no event that is seen. -/
theorem event?_mark (ref : Nat) (on : Bool) :
    [Event.cursor ref (.fetching on)].filterMap K.event? = [] := rfl

theorem mark_left (h : K.Scenes C s s') (ref : Nat) (on : Bool)
    (hC : C' (s.changeCursor ref (.fetching on)).cursors s'.cursors) :
    K.Scenes C' (s.changeCursor ref (.fetching on)) s' where
  now := h.now
  script := h.script
  history := by
    show _ = (s.history ++ [_]).filterMap K.event?
    rw [List.filterMap_append, event?_mark, List.append_nil, h.history]
  cursors := hC
  cursorCount := h.cursorCount
  sessionCount := h.sessionCount
  closes := h.closes
  journal := h.journal
  moments := h.moments

theorem mark_right (h : K.Scenes C s s') (ref : Nat) (on : Bool)
    (hC : C' s.cursors (s'.changeCursor ref (.fetching on)).cursors) :
    K.Scenes C' s (s'.changeCursor ref (.fetching on)) where
  now := h.now
  script := h.script
  history := by
    show (s'.history ++ [_]).filterMap K.event? = _
    rw [List.filterMap_append, event?_mark, List.append_nil, h.history]
  cursors := hC
  cursorCount := h.cursorCount
  sessionCount := h.sessionCount
  closes := h.closes
  journal := h.journal
  moments := h.moments

end Marks

end Likeness.Scenes

/-- A program that leaves the states of all cursors as they were leaves them level. -/
theorem Program.Alike.level {K : Likeness} {R : β → γ → Prop} {p : Program β} {p' : Program γ}
    {s s' : Scene} (h : Alike K (Likeness.Boards s.cursors s'.cursors) R p p' s s')
    (hs : K.Scenes K.Level s s') : Alike K K.Level R p p' s s' := by
  refine ⟨h.1, h.2.withCursors ⟨?_, fun hmixed => ?_⟩⟩
  · rw [h.2.cursors.1, h.2.cursors.2, hs.cursors.1]
  · rw [h.2.cursors.1]
    exact hs.cursors.2 hmixed

/-- Two programs run alike wherever they start in scenes that look alike. -/
def Program.AlwaysAlike (K : Likeness) (p p' : Program β) : Prop :=
  ∀ ⦃s s'⦄, K.Scenes K.Level s s' → Alike K K.Level Eq p p' s s'

open Program (AlwaysAlike)

namespace Cursor

variable {c c' : Cursor α}

/-! ### Marking a fetch -/

/-- A program that is marked as a fetch while it runs. -/
def marking (c : Cursor α) (p : Program β) : Program β := do
  c.update (.fetching true)
  let result ← p.attempt
  c.update (.fetching false)
  Program.ofExcept result

theorem fetchAlone_eq (c : Cursor α) (deadline : Option Deadline) :
    c.fetchAlone deadline = c.look >>= fun s =>
      if s.fetching then throw (.misuse .fetchInProgress s.phase)
      else c.marking (c.fetchBatch deadline) := by
  unfold fetchAlone marking
  refine congrArg (c.look >>= ·) (funext fun s => ?_)
  cases s.fetching <;> rfl

/-- The exchange of a fetch in the mode of the cursor. -/
def fetchOnce (c : Cursor α) (deadline : Option Deadline) : Program Batch :=
  match c.service.mode with
  | .blocking => c.fetchBatch deadline
  | .async => c.fetchAlone deadline

theorem fetchNext_eq (c : Cursor α) (deadline : Option Deadline) :
    c.fetchNext deadline = c.fetchOnce deadline >>= c.ingest := by
  unfold fetchNext fetchOnce
  cases c.service.mode <;> rfl

theorem run_fetchAlone {deadline : Option Deadline} {s : Scene}
    (h : ¬ (s.cursors c.ref).fetching = true) :
    (c.fetchAlone deadline).run s = (c.marking (c.fetchBatch deadline)).run s := by
  rw [fetchAlone_eq]
  show (if (s.cursors c.ref).fetching = true then _ else _ : Program Batch).run s = _
  rw [if_neg h]

theorem run_marking (c : Cursor α) (p : Program β) (s : Scene) :
    (c.marking p).run s = ((p.run (s.changeCursor c.ref (.fetching true))).1,
      (p.run (s.changeCursor c.ref (.fetching true))).2.changeCursor c.ref (.fetching false)) := by
  show (p.attempt >>= fun result => c.update (.fetching false) >>= fun _ =>
    Program.ofExcept result).run (s.changeCursor c.ref (.fetching true)) = _
  rw [Program.run_bind, Program.run_attempt]
  rfl

/-- The states of all cursors while a fetch is marked. -/
def markedBoard (c : Cursor α) (board : Nat → CursorState) : Nat → CursorState :=
  fun r => if r = c.ref then (board c.ref).marked true else board r

theorem markedBoard_cursorId (c : Cursor α) (board : Nat → CursorState) (ref : Nat) :
    (c.markedBoard board ref).cursorId = (board ref).cursorId := by
  unfold markedBoard
  split
  case isTrue href => rw [href]; rfl
  case isFalse => rfl

/-- Behind a fetch the mark is taken back, as it was before. -/
theorem unmark {board : Nat → CursorState} (hidle : (board c.ref).fetching = false) {s : Scene}
    (hs : s.cursors = c.markedBoard board) :
    (s.changeCursor c.ref (.fetching false)).cursors = board := by
  have hmarked : c.markedBoard board c.ref = (board c.ref).marked true := if_pos rfl
  -- no other place has been touched by the mark
  funext r
  by_cases hr : r = c.ref
  · rw [hr, Scene.changeCursor_cursors_self, hs, hmarked]
    show { board c.ref with fetching := false } = board c.ref
    rw [← hidle]
  · rw [s.changeCursor_cursors_of_ne c.ref _ hr, hs]
    exact if_neg hr

section Marking

variable {K : Likeness} {R : β → γ → Prop} {x y : Nat → CursorState} {p : Program β}
  {p' : Program γ} {s s' : Scene}

theorem marking_left (hidle : (x c.ref).fetching = false)
    (h : ∀ {s s'}, K.Scenes (Likeness.Boards (c.markedBoard x) y) s s' →
      Alike K (Likeness.Boards (c.markedBoard x) y) R p p' s s')
    (hs : K.Scenes (Likeness.Boards x y) s s') :
    Alike K (Likeness.Boards x y) R (c.marking p) p' s s' := by
  have hmarked : (s.changeCursor c.ref (.fetching true)).cursors = c.markedBoard x := by
    rw [← hs.cursors.1]
    rfl
  obtain ⟨hresults, hscenes⟩ := h (hs.mark_left c.ref true ⟨hmarked, hs.cursors.2⟩)
  unfold Program.Alike
  rw [run_marking]
  exact ⟨hresults, hscenes.mark_left c.ref false
    ⟨unmark hidle hscenes.cursors.1, hscenes.cursors.2⟩⟩

theorem marking_right (hidle : (y c'.ref).fetching = false)
    (h : ∀ {s s'}, K.Scenes (Likeness.Boards x (c'.markedBoard y)) s s' →
      Alike K (Likeness.Boards x (c'.markedBoard y)) R p p' s s')
    (hs : K.Scenes (Likeness.Boards x y) s s') :
    Alike K (Likeness.Boards x y) R p (c'.marking p') s s' := by
  have hmarked : (s'.changeCursor c'.ref (.fetching true)).cursors = c'.markedBoard y := by
    rw [← hs.cursors.2]
    rfl
  obtain ⟨hresults, hscenes⟩ := h (hs.mark_right c'.ref true ⟨hs.cursors.1, hmarked⟩)
  unfold Program.Alike
  rw [run_marking]
  exact ⟨hresults, hscenes.mark_right c'.ref false
    ⟨hscenes.cursors.1, unmark hidle hscenes.cursors.2⟩⟩

end Marking

/-! ### Twins -/

/-- **Two cursors are twins** if they are kept at the same place, convert items in the same way and
send requests that look alike. -/
structure Twin (K : Likeness) (c c' : Cursor α) : Prop where
  ref : c'.ref = c.ref
  mapper : c'.mapper = c.mapper
  service : c.service.Twin K c'.service
  limits : K.Limits c.plainLimit c'.plainLimit

/-- Two cursors under deadlines get limits that look alike, whenever they ask for one. -/
def Timed (K : Likeness) (c c' : Cursor α) (deadline deadline' : Option Deadline) : Prop :=
  ∀ now, K.moment now →
    K.Results K.Limits (c.limitAt deadline now) (c'.limitAt deadline' now)

namespace Twin

variable {K : Likeness} {s s' : Scene} (h : Twin K c c')

include h

theorem timed_none : Timed K c c' none none := fun _ _ => .ok h.limits

/-- Twins look at the states that are known. -/
theorem look_boards {T : β → γ → Prop} {f : CursorState → Program β} {f' : CursorState → Program γ}
    {x y : Nat → CursorState} (hs : K.Scenes (Likeness.Boards x y) s s')
    (hf : Alike K (Likeness.Boards x y) T (f (x c.ref)) (f' (y c.ref)) s s') :
    Alike K (Likeness.Boards x y) T (c.look >>= f) (c'.look >>= f') s s' := by
  show Alike K _ T (f (s.cursors c.ref)) (f' (s'.cursors c'.ref)) s s'
  rw [h.ref, hs.cursors.1, hs.cursors.2]
  exact hf

/-- Twins that are in the same states look at the same state. -/
theorem look {T : β → γ → Prop} {f : CursorState → Program β} {f' : CursorState → Program γ}
    (hs : K.Scenes K.Level s s')
    (hf : Alike K K.Level T (f (s.cursors c.ref)) (f' (s.cursors c.ref)) s s') :
    Alike K K.Level T (c.look >>= f) (c'.look >>= f') s s' := by
  show Alike K K.Level T (f (s.cursors c.ref)) (f' (s'.cursors c'.ref)) s s'
  rw [h.ref, hs.cursors.1]
  exact hf

theorem update {change : CursorChange} (hchange : ∀ on, change ≠ .fetching on)
    (hs : K.Scenes K.Level s s') :
    Alike K K.Level Eq (c.update change) (c'.update change) s s' := by
  refine ⟨.ok rfl, ?_⟩
  show K.Scenes K.Level (s.changeCursor c.ref change) (s'.changeCursor c'.ref change)
  rw [h.ref]
  exact hs.changeCursor c.ref hchange

/-! ### Fetching -/

section Fetching

variable {deadline deadline' : Option Deadline} (htimed : Timed K c c' deadline deadline')

include htimed

/-- The exchange of a fetch depends on nothing of the cursors but the name of one. -/
theorem fetchBatch {x y : Nat → CursorState} (hid : (y c.ref).cursorId = (x c.ref).cursorId)
    (hs : K.Scenes (Likeness.Boards x y) s s') :
    Alike K (Likeness.Boards x y) Eq (c.fetchBatch deadline) (c'.fetchBatch deadline') s s' := by
  have hliveId : Alike K (Likeness.Boards x y) Eq c.liveId c'.liveId s s' := by
    refine h.look_boards hs ?_
    rw [hid]
    cases (x c.ref).cursorId with
    | none => exact .throw hs (.same _)
    | some id => exact .pure hs rfl
  unfold Cursor.fetchBatch
  refine .bind hliveId ?_
  rintro id _ s₁ s₁' rfl hs₁
  have hlimit : Alike K (Likeness.Boards x y) K.Limits (c.limitUnder deadline)
      (c'.limitUnder deadline') s₁ s₁' := by
    unfold Program.Alike
    rw [run_limitUnder, run_limitUnder, hs₁.now]
    exact ⟨htimed _ hs₁.at_now, hs₁⟩
  exact .bind hlimit fun _ _ _ _ hlimits hs₂ => h.service.fetch id hlimits hs₂

/-- A fetch runs as its exchange does, if no batch is on its way yet: on the side of a twin. -/
theorem fetchOnce_right {x y : Nat → CursorState} (hid : (y c.ref).cursorId = (x c.ref).cursorId)
    (hidle : (y c'.ref).fetching = false) (hs : K.Scenes (Likeness.Boards x y) s s') :
    Alike K (Likeness.Boards x y) Eq (c.fetchBatch deadline) (c'.fetchOnce deadline') s s' := by
  unfold fetchOnce
  split
  · exact h.fetchBatch htimed hid hs
  · have hnone : ¬ (s'.cursors c'.ref).fetching = true := by
      rw [hs.cursors.2, hidle]
      exact Bool.false_ne_true
    unfold Program.Alike
    rw [run_fetchAlone hnone]
    exact marking_right hidle (fun hs => h.fetchBatch htimed
      (by rw [markedBoard_cursorId, hid]) hs) hs

/-- And on both sides. -/
theorem fetchOnce_idle {x y : Nat → CursorState} (hid : (y c.ref).cursorId = (x c.ref).cursorId)
    (hidle : (x c.ref).fetching = false) (hidle' : (y c'.ref).fetching = false)
    (hs : K.Scenes (Likeness.Boards x y) s s') :
    Alike K (Likeness.Boards x y) Eq (c.fetchOnce deadline) (c'.fetchOnce deadline') s s' := by
  unfold fetchOnce
  split
  · exact h.fetchOnce_right htimed hid hidle' hs
  · have hnone : ¬ (s.cursors c.ref).fetching = true := by
      rw [hs.cursors.1, hidle]
      exact Bool.false_ne_true
    unfold Program.Alike
    rw [run_fetchAlone hnone]
    exact marking_left hidle (fun hs => h.fetchOnce_right htimed
      (by rw [markedBoard_cursorId, hid]) hidle' hs) hs

theorem fetchOnce (hs : K.Scenes K.Level s s') :
    Alike K K.Level Eq (c.fetchOnce deadline) (c'.fetchOnce deadline') s s' := by
  -- the exchange is compared for the states that the cursors are in, which it leaves as they are
  have hboards : s'.cursors = s.cursors := hs.cursors.1
  have hid : (s'.cursors c.ref).cursorId = (s.cursors c.ref).cursorId := by rw [hboards]
  by_cases hidle : (s.cursors c.ref).fetching = true
  · -- a batch is on its way, and the twins are of one mode
    have hmode : c'.service.mode = c.service.mode := h.service.mode.resolve_right fun hmixed => by
      rw [hs.cursors.2 hmixed c.ref] at hidle
      cases hidle
    unfold Cursor.fetchOnce
    rw [hmode]
    split
    · refine ((h.fetchBatch htimed hid (hs.withCursors ⟨rfl, rfl⟩))).level hs
    · rw [fetchAlone_eq, fetchAlone_eq]
      refine h.look hs ?_
      rw [if_pos hidle, if_pos hidle]
      exact .throw hs (.same _)
  · rw [Bool.not_eq_true] at hidle
    have hidle' : (s'.cursors c'.ref).fetching = false := by rw [h.ref, hboards, hidle]
    exact (h.fetchOnce_idle htimed hid hidle hidle' (hs.withCursors ⟨rfl, rfl⟩)).level hs

omit htimed in
/-- A batch arrives at both cursors. -/
theorem ingest (b : Batch) (hs : K.Scenes K.Level s s') :
    Alike K K.Level Eq (c.ingest b) (c'.ingest b) s s' := by
  have hreport : ∀ {s s'}, K.Scenes K.Level s s' →
      Alike K K.Level Eq (c.reportWarnings b) (c'.reportWarnings b) s s' := by
    intro s s' hs
    unfold reportWarnings
    split
    · exact .pure hs rfl
    · refine .bind (.ofExcept hs (.refl K (fun _ => rfl) _)) ?_
      rintro warnings _ s₁ s₁' rfl hs₁
      exact .lines hs₁ _ _ _ _ _ _
  unfold Cursor.ingest
  refine .bind (h.update (fun _ => CursorChange.noConfusion) hs) fun _ _ _ _ _ hs₁ => ?_
  refine .bind (hreport hs₁) fun _ _ _ _ _ hs₂ => ?_
  exact h.update (fun _ => CursorChange.noConfusion) hs₂

/-- **A fetch runs alike,** whatever the modes of the twins. -/
theorem fetchNext (hs : K.Scenes K.Level s s') :
    Alike K K.Level Eq (c.fetchNext deadline) (c'.fetchNext deadline') s s' := by
  rw [fetchNext_eq, fetchNext_eq]
  refine .bind (h.fetchOnce htimed hs) ?_
  rintro b _ s₁ s₁' rfl hs₁
  exact h.ingest b hs₁

end Fetching

/-! ### Closing -/

theorem close (hs : K.Scenes K.Level s s') : Alike K K.Level Eq c.close c'.close s s' := by
  unfold Cursor.close
  refine h.look hs ?_
  refine .bind (h.update (fun _ => CursorChange.noConfusion) hs) fun _ _ s₁ s₁' _ hs₁ => ?_
  cases (s.cursors c.ref).toRelease with
  | none => exact .pure hs₁ rfl
  | some id => exact h.service.release id h.limits hs₁

theorem closeAfterFailure (hs : K.Scenes K.Level s s') :
    Alike K K.Level Eq c.closeAfterFailure c'.closeAfterFailure s s' := by
  unfold Cursor.closeAfterFailure
  refine .bind (h.close hs).attempt ?_
  rintro r r' s₁ s₁' hr hs₁
  -- only a failure of the client itself is swallowed, and it is one in both runs or in none
  cases hr with
  | ok _ => exact .pure hs₁ rfl
  | @error e e' he =>
    show Alike K K.Level Eq (if e.isClientError = true then _ else _)
      (if e'.isClientError = true then _ else _) s₁ s₁'
    rw [he.isClientError]
    split
    · exact h.look hs₁ (.record hs₁ _ _ _ _)
    · exact .throw hs₁ he

/-- Behind programs that run alike the twins are closed alike. -/
theorem closing {R : β → γ → Prop} {body : Program β} {body' : Program γ}
    (hbody : Alike K K.Level R body body' s s') :
    Alike K K.Level R (c.closing body) (c'.closing body') s s' := by
  unfold Cursor.closing
  refine .bind hbody.attempt ?_
  rintro r r' s₁ s₁' hr hs₁
  cases hr with
  | ok hab => exact .bind (h.close hs₁) fun _ _ _ _ _ hs₂ => .pure hs₂ hab
  | error he => exact .bind (h.closeAfterFailure hs₁) fun _ _ _ _ _ hs₂ => .throw hs₂ he

/-! ### Reading -/

theorem handOut (number : Nat) (hs : K.Scenes K.Level s s') :
    Alike K K.Level Eq (c.handOut number) (c'.handOut number) s s' := by
  unfold Cursor.handOut
  refine h.look hs ?_
  rw [h.mapper]
  refine .bind (.ofExcept hs (.refl K (fun _ => rfl) _)) ?_
  rintro items _ s₁ s₁' rfl hs₁
  exact .bind (h.update (fun _ => CursorChange.noConfusion) hs₁) fun _ _ _ _ _ hs₂ =>
    .pure hs₂ rfl

theorem drain (hs : K.Scenes K.Level s s') : Alike K K.Level Eq c.drain c'.drain s s' :=
  h.look hs (h.handOut _ hs)

theorem pop (hs : K.Scenes K.Level s s') : Alike K K.Level Eq c.pop? c'.pop? s s' := by
  refine .bind (h.handOut 1 hs) ?_
  rintro items _ s₁ s₁' rfl hs₁
  exact .pure hs₁ rfl

section Filling

variable {deadline deadline' : Option Deadline} (htimed : Timed K c c' deadline deadline')

include htimed

theorem fillWithin (rounds : Nat) (hs : K.Scenes K.Level s s') :
    Alike K K.Level Eq (c.fillWithin deadline rounds) (c'.fillWithin deadline' rounds) s s' := by
  induction rounds generalizing s s' with
  | zero => exact .pure hs rfl
  | succ n ih =>
    refine h.look hs ?_
    split
    · exact .bind (h.fetchNext htimed hs) fun _ _ _ _ _ hs₁ => ih hs₁
    · exact .pure hs rfl

/-- Twins look for an item for the same number of rounds. -/
theorem fill (hs : K.Scenes K.Level s s') :
    Alike K K.Level Eq (c.fill deadline) (c'.fill deadline') s s' := by
  show Alike K K.Level Eq (c.fillWithin deadline s.horizon) (c'.fillWithin deadline' s'.horizon) s s'
  rw [hs.horizon]
  exact h.fillWithin htimed _ hs

end Filling

theorem nextBatch (hs : K.Scenes K.Level s s') :
    Alike K K.Level Eq c.nextBatch c'.nextBatch s s' := by
  refine h.look hs ?_
  split
  · exact .bind (h.fetchNext h.timed_none hs) fun _ _ _ _ _ hs₁ => h.drain hs₁
  · exact h.drain hs

theorem next (hs : K.Scenes K.Level s s') : Alike K K.Level Eq c.next? c'.next? s s' := by
  refine h.look hs ?_
  split
  · exact .pure hs rfl
  · refine .bind (h.fill h.timed_none hs) fun _ _ s₁ s₁' _ hs₁ => h.look hs₁ ?_
    split
    · exact .bind (h.close hs₁) fun _ _ _ _ _ hs₂ => .pure hs₂ rfl
    · exact h.pop hs₁

theorem hasNext (hs : K.Scenes K.Level s s') : Alike K K.Level Eq c.hasNext c'.hasNext s s' := by
  refine h.look hs ?_
  split
  · exact .pure hs rfl
  · exact .bind (h.fill h.timed_none hs) fun _ _ s₁ s₁' _ hs₁ => h.look hs₁ (.pure hs₁ rfl)

/-! ### Draining -/

theorem ensureAlive (hs : K.Scenes K.Level s s') :
    Alike K K.Level Eq c.ensureAlive c'.ensureAlive s s' := by
  refine h.look hs ?_
  split
  · exact .throw hs (.same _)
  · exact .pure hs rfl

/-- Methods that begin alike go on under deadlines that allow for requests alike. -/
theorem underDeadline {R : β → γ → Prop} {limit limit' : Value}
    {body : Deadline → Program β} {body' : Deadline → Program γ}
    (hstart : K.Results (fun d d' => Timed K c c' (some d) (some d'))
      (Deadline.starting s.now limit (some generalTimeoutLabel))
      (Deadline.starting s.now limit' (some generalTimeoutLabel)))
    (hbody : ∀ {d d' s₁ s₁'}, Timed K c c' (some d) (some d') → K.Scenes K.Level s₁ s₁' →
      Alike K K.Level R (body d) (body' d') s₁ s₁')
    (hs : K.Scenes K.Level s s') :
    Alike K K.Level R (c.underDeadline limit body) (c'.underDeadline limit' body') s s' := by
  -- a method reads the clock once, and the twins read the same time
  refine .bind (R := fun d d' => Timed K c c' (some d) (some d')) ?_ fun d d' s₁ s₁' hd hs₁ =>
    hbody hd hs₁
  unfold Cursor.deadline Cursor.ensureAlive
  rw [Program.bind_assoc, Program.bind_assoc]
  refine h.look hs ?_
  split
  · exact .throw hs (.same _)
  · refine .ofExcept hs ?_
    rw [hs.now]
    exact hstart

section Lists

variable {d d' : Deadline} (htimed : Timed K c c' (some d) (some d'))

include htimed

theorem collect (rounds : Nat) (hs : K.Scenes K.Level s s') :
    Alike K K.Level Eq (c.collect d rounds) (c'.collect d' rounds) s s' := by
  induction rounds generalizing s s' with
  | zero => exact .pure hs rfl
  | succ n ih =>
    refine h.look hs ?_
    split
    · refine .bind (h.fetchNext htimed hs) fun _ _ s₁ s₁' _ hs₁ => ?_
      refine .bind (h.drain hs₁) ?_
      rintro items _ s₂ s₂' rfl hs₂
      refine .bind (ih hs₂) ?_
      rintro rest _ s₃ s₃' rfl hs₃
      exact .pure hs₃ rfl
    · exact .pure hs rfl

theorem remainder (hs : K.Scenes K.Level s s') :
    Alike K K.Level Eq (c.remainder d) (c'.remainder d') s s' := by
  refine .bind (h.drain hs) ?_
  rintro items _ s₁ s₁' rfl hs₁
  show Alike K K.Level Eq (c.collect d s₁.horizon >>= _) (c'.collect d' s₁'.horizon >>= _) s₁ s₁'
  rw [hs₁.horizon]
  refine .bind (h.collect htimed _ hs₁) ?_
  rintro rest _ s₂ s₂' rfl hs₂
  exact .pure hs₂ rfl

theorem pullUnder (hs : K.Scenes K.Level s s') :
    Alike K K.Level Eq (c.pullUnder d) (c'.pullUnder d') s s' :=
  .bind (h.fill htimed hs) fun _ _ _ _ _ hs₁ => h.pop hs₁

end Lists

/-- **Lists are made alike** within limits that allow for requests alike. -/
theorem toListWithin {limit limit' : Value}
    (hstart : K.Results (fun d d' => Timed K c c' (some d) (some d'))
      (Deadline.starting s.now limit (some generalTimeoutLabel))
      (Deadline.starting s.now limit' (some generalTimeoutLabel)))
    (hs : K.Scenes K.Level s s') :
    Alike K K.Level Eq (c.toListWithin limit) (c'.toListWithin limit') s s' := by
  rw [toListWithin_eq, toListWithin_eq]
  exact h.underDeadline hstart (fun hd hs₁ => h.closing (h.remainder hd hs₁)) hs

/-- Lists are made alike by twins with the same limits. -/
theorem toList (general timeout : Option Int)
    (hstart : K.Results (fun d d' => Timed K c c' (some d) (some d'))
      (Deadline.starting s.now (c.overall general timeout) (some generalTimeoutLabel))
      (Deadline.starting s.now (c'.overall general timeout) (some generalTimeoutLabel)))
    (hs : K.Scenes K.Level s s') :
    Alike K K.Level Eq (c.toList general timeout) (c'.toList general timeout) s s' :=
  h.toListWithin hstart hs

section Visits

variable {pull pull' : Program (Option α)} {visit visit' : α → Program Bool}
  (hvisit : ∀ a, AlwaysAlike K (visit a) (visit' a))

include hvisit

omit h in
theorem visitItems (hpull : AlwaysAlike K pull pull') (number : Nat) :
    AlwaysAlike K (Cursor.visitItems pull visit number) (Cursor.visitItems pull' visit' number) := by
  induction number with
  | zero => exact fun s s' hs => .pure hs rfl
  | succ n ih =>
    intro s s' hs
    refine .bind (hpull hs) ?_
    rintro a? _ s₁ s₁' rfl hs₁
    cases a? with
    | none => exact .pure hs₁ rfl
    | some a =>
      refine .bind (hvisit a hs₁) ?_
      rintro on _ s₂ s₂' rfl hs₂
      cases on with
      | true => exact ih hs₂
      | false => exact .pure hs₂ rfl

theorem visitRounds (hpull : AlwaysAlike K pull pull') (rounds : Nat) :
    AlwaysAlike K (c.visitRounds pull visit rounds) (c'.visitRounds pull' visit' rounds) := by
  induction rounds with
  | zero => exact fun s s' hs => .pure hs rfl
  | succ n ih =>
    intro s s' hs
    refine h.look hs (.bind (visitItems hvisit hpull _ hs) ?_)
    rintro on _ s₁ s₁' rfl hs₁
    cases on with
    | true => exact ih hs₁
    | false => exact .pure hs₁ rfl

theorem visitAll (hpull : AlwaysAlike K pull pull') :
    AlwaysAlike K (c.visitAll pull visit) (c'.visitAll pull' visit') := by
  intro s s' hs
  show Alike K K.Level Eq (c.visitRounds pull visit s.horizon) (c'.visitRounds pull' visit' s'.horizon)
    s s'
  rw [hs.horizon]
  exact h.visitRounds hvisit hpull _ hs

/-- **Functions that run alike are called alike.** -/
theorem forEach (general timeout : Option Int)
    (hstart : K.Results (fun d d' => Timed K c c' (some d) (some d'))
      (Deadline.starting s.now (c.overall general timeout) (some generalTimeoutLabel))
      (Deadline.starting s.now (c'.overall general timeout) (some generalTimeoutLabel)))
    (hs : K.Scenes K.Level s s') :
    Alike K K.Level Eq (c.forEach visit general timeout) (c'.forEach visit' general timeout) s s' := by
  rw [forEach_eq, forEach_eq]
  exact h.underDeadline hstart (fun hd hs₁ => h.closing (h.visitAll hvisit
    (fun _ _ hs₂ => h.pullUnder hd hs₂) hs₁)) hs

end Visits

end Twin

/-! ### Making twins -/

section Making

variable {K : Likeness} {s s' : Scene} {service service' : QueryService} {mapper : Mapper α}
  {requestLimit requestLimit' overallLimit overallLimit' : Value}

/-- **Twins are made of one batch:** they get the same place. -/
theorem opened_alike (hservice : service.Twin K service')
    (hlimits : K.Limits ⟨requestLimit, .null, some requestTimeoutLabel⟩
      ⟨requestLimit', .null, some requestTimeoutLabel⟩)
    (first : Batch) (hs : K.Scenes K.Level s s') :
    Alike K K.Level (fun c c' => ∃ ref, c = ⟨ref, service, mapper, requestLimit, overallLimit⟩ ∧
        c' = ⟨ref, service', mapper, requestLimit', overallLimit'⟩)
      (opened service mapper requestLimit overallLimit first)
      (opened service' mapper requestLimit' overallLimit' first) s s' := by
  -- as many cursors have been made in one scene as in the other, so that the places are the same
  let c : Cursor α := ⟨s.cursorCount, service, mapper, requestLimit, overallLimit⟩
  let c' : Cursor α := ⟨s.cursorCount, service', mapper, requestLimit', overallLimit'⟩
  have htwin : Twin K c c' := ⟨rfl, rfl, hservice, hlimits⟩
  have hrun : (opened service mapper requestLimit overallLimit first).run s =
      ((do c.ingest first; return c) : Program (Cursor α)).run s.addCursor := rfl
  have hrun' : (opened service' mapper requestLimit' overallLimit' first).run s' =
      ((do c'.ingest first; return c') : Program (Cursor α)).run s'.addCursor := by
    show ((do
      Cursor.ingest ⟨s'.cursorCount, service', mapper, requestLimit', overallLimit'⟩ first
      return ⟨s'.cursorCount, service', mapper, requestLimit', overallLimit'⟩) :
        Program (Cursor α)).run s'.addCursor = _
    rw [hs.cursorCount]
  unfold Program.Alike
  rw [hrun, hrun']
  exact Alike.bind (htwin.ingest first hs.addCursor) fun _ _ _ _ _ hs₁ =>
    .pure hs₁ ⟨s.cursorCount, rfl, rfl⟩

end Making

end Cursor

end AqlClient
