import AqlClient.Proofs.Cursor.Loops
import AqlClient.Proofs.Program.Exchange

/-!
# What the operations of a cursor uphold

The operations of a cursor are made of a few: a batch is fetched where the cursor looks for it, the
cursor is closed, and items are handed out. An invariant that these uphold (`Cursor.Upkeep`) is
upheld by all of them, and by whatever a caller does with the cursor (`Cursor.Upkeep.uses`).

All fetches go through `Cursor.fetchNext`, under whatever deadline, and the loops around them stay
on course (`Cursor.Supplied`).

Handing out is kept apart from the rest, since much of what a cursor does can be done where nothing
may be handed out.
-/

namespace AqlClient

variable {α β ω : Type} {c : Cursor α} {D : Discipline ω} {I : ω → Scene → Prop}
  {E : Failure → Prop} {w : ω} {s : Scene}

open Program (Kept Upholds)

namespace Cursor

/-! ### All that is left -/

/-- All that is left of a cursor, under a deadline. -/
def remainder (c : Cursor α) (d : Deadline) : Program (List α) := do
  let items ← c.drain
  return items ++ (← c.collect d (← Program.view Scene.horizon))

theorem remainder_eq (d : Deadline) : c.remainder d = c.remainderBy c.drain d := by
  unfold remainder remainderBy
  simp only [collect_eq]

/-! ### The parts of a fetch -/

/-- The limit for the next request of a cursor at a given time. -/
def limitAt (c : Cursor α) (deadline : Option Deadline) (now : Int) : Except Failure TimeLimit :=
  match deadline with
  | none => .ok c.plainLimit
  | some d => d.remaining now c.requestLimit (some requestTimeoutLabel)

theorem run_limitUnder (c : Cursor α) (deadline : Option Deadline) (s : Scene) :
    (c.limitUnder deadline).run s = (c.limitAt deadline s.now, s) := by
  cases deadline <;> rfl

/-- The exchange of a fetch needs the name of the cursor, and some time that is left. -/
theorem wp_fetchBatch_of {deadline : Option Deadline} {Q : Except Failure Batch → ω → Scene → Prop}
    (hname : (s.cursors c.ref).cursorId = none → Q (.error .noCursorId) w s)
    (hlimit : ∀ id e, (s.cursors c.ref).cursorId = some id →
      c.limitAt deadline s.now = .error e → Q (.error e) w s)
    (hfetch : ∀ id limit, (s.cursors c.ref).cursorId = some id →
      c.limitAt deadline s.now = .ok limit → (c.service.fetch id limit).wp D Q w s) :
    (c.fetchBatch deadline).wp D Q w s := by
  unfold fetchBatch liveId
  rw [Program.wp_bind, wp_look]
  split
  case h_2 hid => exact hname hid
  case h_1 id hid =>
    rw [Program.wp_pure, Program.chain_ok, Program.wp_bind]
    cases deadline with
    | none => exact hfetch id _ hid rfl
    | some d =>
      -- the time that is left may be over before the request is sent
      unfold limitUnder Program.now
      rw [Program.wp_view_bind, Program.wp_ofExcept]
      cases hd : d.remaining s.now c.requestLimit (some requestTimeoutLabel) with
      | error e => exact hlimit id e hid hd
      | ok limit => exact hfetch id limit hid hd

/-- The exchange of a fetch ends in `I` or in `J`, if it may take place where `I` holds and ends
in `J`. -/
theorem wp_fetchBatch {J : ω → Scene → Prop} (hI : Logless I) (hJ : Logless J)
    (deadline : Option Deadline)
    (hc : ∀ id limit, c.service.gateway.Carries D I J (QueryService.cursorCall "PUT" id limit))
    (h : I w s) : (c.fetchBatch deadline).wp D (fun _ w s => I w s ∨ J w s) w s := by
  refine wp_fetchBatch_of (fun _ => .inl h) (fun _ _ _ _ => .inl h) fun id limit _ _ => ?_
  exact Program.wp_mono (QueryService.wp_fetch hI hJ (hc id limit) h) fun _ _ _ h => h.or

/-- A fetch of an asynchronous cursor is refused while another one is on its way. Otherwise the
flag is set during its exchange, whatever comes of it. -/
theorem wp_fetchAlone (deadline : Option Deadline)
    (Q : Except Failure Batch → ω → Scene → Prop) :
    (c.fetchAlone deadline).wp D Q w s ↔
      if (s.cursors c.ref).fetching then
        Q (.error (.misuse .fetchInProgress (s.cursors c.ref).phase)) w s
      else
        (c.fetchBatch deadline).wp D (fun r w s => Q r w (s.changeCursor c.ref (.fetching false)))
          w (s.changeCursor c.ref (.fetching true)) := by
  unfold fetchAlone
  rw [wp_look]
  by_cases hf : (s.cursors c.ref).fetching = true
  · rw [if_pos hf, if_pos hf]
    exact Iff.rfl
  · rw [if_neg hf, if_neg hf, wp_update, Program.wp_attempt_bind]
    exact Iff.rfl

/-- A fetch of a blocking cursor is its exchange, and one of an asynchronous cursor marks that a
batch is on its way. -/
theorem wp_fetchNext_of {deadline : Option Deadline} {Q : Except Failure Unit → ω → Scene → Prop}
    (hblocking : (c.fetchBatch deadline >>= c.ingest).wp D Q w s)
    (hasync : (c.fetchAlone deadline >>= c.ingest).wp D Q w s) :
    (c.fetchNext deadline).wp D Q w s := by
  unfold fetchNext
  split
  · exact hblocking
  · exact hasync

/-- A method that reads all that is left begins with its deadline, unless the cursor is closed. -/
theorem wp_deadline {overall : Value} (Q : Except Failure Deadline → ω → Scene → Prop) :
    (c.deadline overall).wp D Q w s ↔
      if (s.cursors c.ref).phase = .closed then Q (.error (.misuse .closed .closed)) w s
      else Q (Deadline.starting s.now overall (some generalTimeoutLabel)) w s := by
  unfold deadline ensureAlive Program.now
  rw [Program.wp_bind, wp_look]
  by_cases hclosed : (s.cursors c.ref).phase = .closed
  · rw [if_pos hclosed, if_pos hclosed, hclosed]
    exact Iff.rfl
  · rw [if_neg hclosed, if_neg hclosed]
    exact Iff.rfl

/-! ### Closing -/

section Ends

variable {J : ω → Scene → Prop} (hlogless : Logless J)

include hlogless

/-- What a cursor is closed in holds behind a failure, too: at most, a line is logged. -/
theorem wp_closeAfterFailure_of (hclose : c.close.wp D (fun _ w s => J w s) w s) :
    c.closeAfterFailure.wp D (fun _ w s => J w s) w s := by
  unfold closeAfterFailure
  rw [Program.wp_attempt_bind]
  refine Program.wp_mono hclose fun r w s hJ => ?_
  cases r with
  | ok _ => exact hJ
  | error e =>
    show Program.wp _ (if e.isClientError = true then _ else _) _ _ _
    split
    · exact hlogless .warning _ hJ
    · exact hJ

/-- **What closing comes to** behind a program holds wherever the program is followed by closing,
whether it ends well or not. -/
theorem wp_closing_of {body : Program β}
    (hbody : body.wp D (fun _ w s => c.close.wp D (fun _ w s => J w s) w s) w s) :
    (c.closing body).wp D (fun _ w s => J w s) w s := by
  unfold closing
  rw [Program.wp_attempt_bind]
  refine Program.wp_mono hbody fun r w s hclose => ?_
  cases r with
  | ok b => exact Program.wp_seq hclose (fun _ _ _ hJ => hJ) fun _ _ _ hJ => hJ
  | error e =>
    exact Program.wp_seq (wp_closeAfterFailure_of hlogless hclose) (fun _ _ _ hJ => hJ)
      fun _ _ _ hJ => hJ

end Ends

section Closing

variable (hlogless : Logless I) (hclose : c.close.Upholds D I E)

include hlogless hclose

theorem upholds_closeAfterFailure : c.closeAfterFailure.Upholds D I E := by
  refine Program.upholds_attempt_bind hclose (fun _ => Program.upholds_pure ()) fun e he => ?_
  show Upholds D I E (if e.isClientError = true then _ else _)
  split
  · refine Program.upholds_bind (Program.upholds_view _) fun state => ?_
    exact fun _ _ hI => Program.kept_ok (hlogless _ _ hI)
  · exact Program.upholds_throw he

/-- The cursor is closed behind a program, however the program ends. -/
theorem wp_kept_closing {body : Program β} (hbody : body.wp D (Kept I E) w s) :
    (c.closing body).wp D (Kept I E) w s := by
  unfold closing
  rw [Program.wp_attempt_bind]
  refine Program.wp_mono hbody fun r w s hr => ?_
  cases r with
  | ok b => exact Program.upholds_bind hclose (fun _ => Program.upholds_pure b) hr.1
  | error e =>
    exact Program.upholds_bind (upholds_closeAfterFailure hlogless hclose)
      (fun _ => Program.upholds_throw (hr.2 e rfl)) hr.1

end Closing

/-! ### Upkeep -/

/-- **What the operations of a cursor are made of upholds an invariant.** -/
structure Upkeep (c : Cursor α) (D : Discipline ω) (I : ω → Scene → Prop)
    (E : Failure → Prop) : Prop where
  logless : Logless I
  fetchNext : ∀ deadline ⦃w s⦄, I w s → (s.cursors c.ref).needsFetch = true →
    (c.fetchNext deadline).wp D (Kept I E) w s
  close : c.close.Upholds D I E
  /-- A closed cursor may be refused. -/
  closed : E (.misuse .closed .closed)
  /-- What limits a method may turn out to be no number. -/
  wrongType : E .wrongType

namespace Upkeep

variable (h : c.Upkeep D I E)

include h

theorem closeAfterFailure : c.closeAfterFailure.Upholds D I E :=
  upholds_closeAfterFailure h.logless h.close

theorem closing {body : Program β} (hbody : body.Upholds D I E) :
    (c.closing body).Upholds D I E :=
  fun _ _ hI => wp_kept_closing h.logless h.close (hbody hI)

/-! ### Looking for items -/

/-- Fetches are made under any deadline. -/
theorem supplied (deadline : Option Deadline) :
    c.Supplied D deadline I fun e w s => I w s ∧ E e :=
  fun _ _ hI hneeds => Program.wp_kept_iff_ends.1 (h.fetchNext deadline hI hneeds)

theorem fill (deadline : Option Deadline) : (c.fill deadline).Upholds D I E :=
  Program.upholds_iff_stays.2 (h.supplied deadline).fill

theorem hasNext : c.hasNext.Upholds D I E := by
  refine Program.upholds_bind (Program.upholds_view _) fun state => ?_
  split
  · exact Program.upholds_pure false
  · exact Program.upholds_bind (h.fill none) fun _ =>
      Program.upholds_bind (Program.upholds_view _) fun _ => Program.upholds_pure _

theorem ensureAlive : c.ensureAlive.Upholds D I E := by
  refine Program.upholds_bind (Program.upholds_view _) fun state => ?_
  split
  case isTrue hclosed =>
    rw [hclosed]
    exact Program.upholds_throw h.closed
  case isFalse => exact Program.upholds_pure ()

theorem deadline (overall : Value) : (c.deadline overall).Upholds D I E := by
  intro w s hI
  rw [wp_deadline]
  split
  · exact Program.kept_error hI h.closed
  · refine ⟨hI, fun e he => ?_⟩
    -- a method can be started within any limit that is a number
    unfold Deadline.starting at he
    split at he
    · cases he
    · split at he
      · cases he
      · cases he
        exact h.wrongType

/-! ### Reading and draining -/

section HandingOut

variable (hand : ∀ number, (c.handOut number).Upholds D I E)

include hand

omit h in
theorem pop : c.pop?.Upholds D I E :=
  Program.upholds_bind (hand 1) fun items => Program.upholds_pure items.head?

omit h in
theorem drain : c.drain.Upholds D I E := by
  intro w s hI
  rw [wp_drain]
  exact hand _ hI

theorem next : c.next?.Upholds D I E := by
  refine Program.upholds_bind (Program.upholds_view _) fun state => ?_
  split
  · exact Program.upholds_pure none
  · refine Program.upholds_bind (h.fill none) fun _ => ?_
    refine Program.upholds_bind (Program.upholds_view _) fun state => ?_
    split
    · exact Program.upholds_bind h.close fun _ => Program.upholds_pure none
    · exact pop hand

theorem nextBatch : c.nextBatch.Upholds D I E := by
  intro w s hI
  unfold Cursor.nextBatch
  rw [wp_look]
  split
  case isTrue hneeds =>
    exact Program.wp_kept_seq (h.fetchNext none hI hneeds) fun _ _ _ hI => drain hand hI
  case isFalse => exact drain hand hI

theorem remainder (d : Deadline) : (c.remainder d).Upholds D I E := by
  have hdrain : c.Empties D I (fun e w s => I w s ∧ E e) c.drain :=
    empties_drain fun number => Program.upholds_iff_stays.1 (hand number)
  rw [remainder_eq]
  exact Program.upholds_iff_stays.2 ((h.supplied _).remainderBy hdrain)

theorem toListWithin (limit : Value) : (c.toListWithin limit).Upholds D I E :=
  Program.upholds_bind (h.deadline limit) fun d => h.closing (h.remainder hand d)

theorem toList (general timeout : Option Int) : (c.toList general timeout).Upholds D I E :=
  h.toListWithin hand _

theorem pullUnder (d : Deadline) : (c.pullUnder d).Upholds D I E :=
  Program.upholds_bind (h.fill _) fun _ => pop hand

end HandingOut

section Visiting

variable {visit : α → Program Bool} (hvisit : ∀ a, (visit a).Upholds D I E)

include hvisit

omit h in
theorem visitAll {pull : Program (Option α)} (hpull : pull.Upholds D I E) :
    (c.visitAll pull visit).Upholds D I E :=
  Program.upholds_iff_stays.2 (stays_visitAll (Program.upholds_iff_stays.1 hpull)
    fun a => Program.upholds_iff_stays.1 (hvisit a))

variable (hand : ∀ number, (c.handOut number).Upholds D I E)

include hand

theorem forEach (general timeout : Option Int) :
    (c.forEach visit general timeout).Upholds D I E := by
  refine Program.upholds_bind (h.deadline _) fun d => ?_
  exact h.closing (visitAll hvisit (h.pullUnder hand d))

theorem iterate : (c.iterate visit).Upholds D I E :=
  Program.upholds_bind h.ensureAlive fun _ => visitAll hvisit (h.next hand)

end Visiting

/-- **Whatever a caller does with a cursor upholds the invariant,** if what else it does upholds
it. -/
theorem uses {others : (γ : Type) → Program γ → Prop}
    (hand : ∀ number, (c.handOut number).Upholds D I E)
    (hothers : ∀ {γ : Type} {p : Program γ}, others γ p → p.Upholds D I E) {p : Program β}
    (hp : c.Uses others p) : p.Upholds D I E := by
  induction hp with
  | other hp => exact hothers hp
  | bind _ _ ihp ihf => exact Program.upholds_bind ihp ihf
  | attempt _ ih => exact Program.upholds_attempt ih
  | next => exact h.next hand
  | nextBatch => exact h.nextBatch hand
  | hasNext => exact h.hasNext
  | close => exact h.close
  | toList general timeout => exact h.toList hand general timeout
  | forEach general timeout _ ih => exact h.forEach ih hand general timeout
  | iterate _ ih => exact h.iterate ih hand
  | closing _ ih => exact h.closing ih

end Upkeep

end Cursor

end AqlClient
