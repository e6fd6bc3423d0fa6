import AqlClient.Proofs.Cursor.Client
import AqlClient.Proofs.Program.Course

/-!
# The loops of a cursor

Everything that reads a cursor to some point is a loop around a few parts: a batch is fetched where
it is needed, the buffer is handed out, the next item is pulled, a function is called on it. If
these stay on course, so does the loop around them, whatever the course is.

All fetches of a loop are made under the same deadline, if under any. They are kept apart from the
other parts because they need more than the others (`Cursor.Supplied`): the buffer is empty and the
cursor live. A loop either looks for this itself, or it has emptied the buffer just before, for
which the way in which the buffer is handed out is a parameter (`Cursor.collectBy`,
`Cursor.Empties`).
-/

namespace AqlClient

variable {α ω : Type} {c : Cursor α} {D : Discipline ω} {I : ω → Scene → Prop}
  {F : Failure → ω → Scene → Prop} {w : ω} {s : Scene} {deadline : Option Deadline}

open Program (Ends Stays)

namespace Cursor

/-- The buffer is empty and the cursor live where a fetch is needed. -/
theorem needsFetch_iff {state : CursorState} :
    state.needsFetch = true ↔ state.buffer = [] ∧ state.phase = .live := by
  rw [CursorState.needsFetch, Bool.and_eq_true, List.isEmpty_iff, beq_iff_eq]

/-! ### Handing out -/

/-- Either all the items can be converted, and they are handed out, or nothing happens. -/
theorem wp_handOut (number : Nat) (Q : Except Failure (List α) → ω → Scene → Prop) :
    (c.handOut number).wp D Q w s ↔
      match c.mapper.convert (s.cursors c.ref).consumed ((s.cursors c.ref).buffer.take number) with
      | .ok items => Q (.ok items) w (s.changeCursor c.ref (.taken number))
      | .error e => Q (.error e) w s := by
  unfold handOut
  rw [wp_look, Program.wp_bind, Program.wp_ofExcept]
  cases c.mapper.convert (s.cursors c.ref).consumed ((s.cursors c.ref).buffer.take number) with
  | ok items => rfl
  | error e => rfl

theorem wp_drain (Q : Except Failure (List α) → ω → Scene → Prop) :
    c.drain.wp D Q w s ↔ (c.handOut (s.cursors c.ref).buffer.length).wp D Q w s := by
  unfold drain
  rw [wp_look]

/-! ### The parts of a loop -/

/-- **Fetches under a deadline stay on course** where they are needed. -/
def Supplied (c : Cursor α) (D : Discipline ω) (deadline : Option Deadline)
    (I : ω → Scene → Prop) (F : Failure → ω → Scene → Prop) : Prop :=
  ∀ ⦃w s⦄, I w s → (s.cursors c.ref).needsFetch = true →
    (c.fetchNext deadline).wp D (Ends I F) w s

/-- **A way to hand out the buffer** stays on course, and the buffer is empty behind it. -/
def Empties (c : Cursor α) (D : Discipline ω) (I : ω → Scene → Prop)
    (F : Failure → ω → Scene → Prop) (drain : Program (List α)) : Prop :=
  ∀ ⦃w s⦄, I w s → drain.wp D (Ends (fun w s => I w s ∧ (s.cursors c.ref).buffer = []) F) w s

/-- Once the whole buffer has been handed out, it is empty. -/
theorem empties_drain (hand : ∀ number, (c.handOut number).Stays D I F) :
    c.Empties D I F c.drain := by
  intro w s hI
  have hhand := hand (s.cursors c.ref).buffer.length hI
  rw [wp_drain]
  rw [wp_handOut] at hhand ⊢
  split at hhand
  case h_1 items _ =>
    refine ⟨hhand, ?_⟩
    rw [Scene.changeCursor_cursors_self]
    exact List.drop_length
  case h_2 e _ => exact hhand

/-- The items of all further batches, with a way to hand out the buffer. -/
def collectBy (c : Cursor α) (drain : Program (List α)) (d : Deadline) : Nat → Program (List α)
  | 0 => pure []
  | n + 1 => do
    if (← c.look).phase = .live then
      c.fetchNext (some d)
      let items ← drain
      return items ++ (← collectBy c drain d n)
    else return []

/-- All that is left of a cursor, with a way to hand out the buffer. -/
def remainderBy (c : Cursor α) (drain : Program (List α)) (d : Deadline) : Program (List α) := do
  let items ← drain
  return items ++ (← c.collectBy drain d (← Program.view Scene.horizon))

theorem collect_eq (d : Deadline) (rounds : Nat) :
    c.collect d rounds = c.collectBy c.drain d rounds := by
  induction rounds with
  | zero => rfl
  | succ n ih =>
    unfold collect collectBy
    rw [ih]

/-! ### Looking for items -/

namespace Supplied

variable (h : c.Supplied D deadline I F)

include h

theorem fillWithin (rounds : Nat) : (c.fillWithin deadline rounds).Stays D I F := by
  induction rounds with
  | zero => exact Program.stays_pure ()
  | succ n ih =>
    intro w s hI
    unfold Cursor.fillWithin
    rw [wp_look]
    split
    case isTrue hneeds => exact Program.wp_ends_seq (h hI hneeds) fun _ _ _ hI => ih hI
    case isFalse => exact hI

theorem fill : (c.fill deadline).Stays D I F :=
  Program.stays_bind (Program.stays_view _) fun rounds => h.fillWithin rounds

end Supplied

/-! ### Reading all that is left -/

section Collecting

variable {drain : Program (List α)} {d : Deadline} (h : c.Supplied D (some d) I F)
  (hdrain : c.Empties D I F drain)

include h hdrain

/-- Between two rounds the buffer is empty, since everything has just been handed out. -/
theorem Supplied.wp_collectBy (rounds : Nat) (hI : I w s) (hbuffer : (s.cursors c.ref).buffer = []) :
    (c.collectBy drain d rounds).wp D (Ends I F) w s := by
  induction rounds generalizing w s with
  | zero => exact hI
  | succ n ih =>
    unfold collectBy
    rw [wp_look]
    split
    case isTrue hlive =>
      refine Program.wp_ends_seq (h hI (needsFetch_iff.2 ⟨hbuffer, hlive⟩)) fun _ w s hI => ?_
      refine Program.wp_ends_seq (hdrain hI) fun items w s hempty => ?_
      exact Program.wp_ends_seq (ih hempty.1 hempty.2) fun _ _ _ hI => hI
    case isFalse => exact hI

theorem Supplied.remainderBy : (c.remainderBy drain d).Stays D I F := by
  intro w s hI
  refine Program.wp_ends_seq (hdrain hI) fun items w s hempty => ?_
  rw [Program.wp_view_bind]
  exact Program.wp_ends_seq (h.wp_collectBy hdrain _ hempty.1 hempty.2) fun _ _ _ hI => hI

end Collecting

/-! ### Calling a function on items -/

section Visiting

variable {pull : Program (Option α)} {visit : α → Program Bool} (hpull : pull.Stays D I F)
  (hvisit : ∀ a, (visit a).Stays D I F)

include hpull hvisit

theorem stays_visitItems (number : Nat) : (visitItems pull visit number).Stays D I F := by
  induction number with
  | zero => exact Program.stays_pure true
  | succ n ih =>
    refine Program.stays_bind hpull fun a? => ?_
    cases a? with
    | none => exact Program.stays_pure false
    | some a =>
      refine Program.stays_bind (hvisit a) fun on => ?_
      split
      · exact ih
      · exact Program.stays_pure false

theorem stays_visitAll : (c.visitAll pull visit).Stays D I F := by
  have hrounds : ∀ rounds, (c.visitRounds pull visit rounds).Stays D I F := by
    intro rounds
    induction rounds with
    | zero => exact Program.stays_pure ()
    | succ n ih =>
      refine Program.stays_bind (Program.stays_view _) fun state => ?_
      refine Program.stays_bind (stays_visitItems hpull hvisit _) fun on => ?_
      split
      · exact ih
      · exact Program.stays_pure ()
  exact Program.stays_bind (Program.stays_view _) fun rounds => hrounds rounds

end Visiting

end Cursor

end AqlClient
