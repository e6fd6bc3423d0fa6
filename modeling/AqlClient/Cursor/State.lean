import AqlClient.Batch
import AqlClient.Cursor.Phase

/-!
# The state of a cursor

A cursor holds the items that have arrived and were not handed out yet, in the order of the
server (its *buffer*), what the server has said about it so far, and how much has passed
through it (`CursorState`). All its changes are functions of this module:

* `CursorState.received` and `CursorState.settled`: a batch arrives. The two halves of this
  change are separate because the warnings that come along are reported between them;
* `CursorState.taken`: the items in front of the buffer are handed out;
* `CursorState.close`: the cursor gives no more items. The result names the cursor of the
  server that is to be released, if there is one;
* `CursorState.marked`: a fetch begins or ends.

A closed cursor stays closed whatever arrives. What happens to a cursor is data as well
(`CursorChange`), so that the history of a cursor can be read back: `CursorState.after` is the
state that a change leads to.
-/

namespace AqlClient

/-- The state of a cursor. The flag `fetching` is set while a batch is on its way to an
asynchronous cursor. -/
structure CursorState where
  phase : Phase
  buffer : List Value
  cursorId : Option String
  hasMore : Bool
  count : Option Int
  extra : Option Entries
  cached : Option Bool
  batches : Nat
  consumed : Nat
  fetching : Bool
  deriving Inhabited

namespace CursorState

/-- The state before any batch has arrived. -/
def initial : CursorState where
  phase := .exhausted
  buffer := []
  cursorId := none
  hasMore := false
  count := none
  extra := none
  cached := none
  batches := 0
  consumed := 0
  fetching := false

/-- A batch arrives: its items join the buffer. What it does not say is kept as it was. -/
def received (s : CursorState) (b : Batch) : CursorState :=
  { s with
    buffer := s.buffer ++ b.results
    batches := s.batches + 1
    cursorId := b.cursorId.or s.cursorId
    count := b.count.or s.count
    extra := b.extra.or s.extra }

/-- A batch has been reported: whether there are more of them decides the phase, unless the
cursor has been closed. -/
def settled (s : CursorState) (b : Batch) : CursorState :=
  { s with
    cached := b.cached.or s.cached
    hasMore := b.hasMore
    -- nothing opens a closed cursor again
    phase :=
      match s.phase with
      | .closed => .closed
      | _ => if b.hasMore then .live else .exhausted }

/-- A closed cursor stays closed when a batch is settled. -/
theorem settled_of_closed {s : CursorState} (h : s.phase = .closed) (b : Batch) :
    (s.settled b).phase = .closed := by
  unfold settled
  rw [h]

/-- Otherwise the batch decides the phase. -/
theorem settled_of_open {s : CursorState} (h : s.phase ≠ .closed) (b : Batch) :
    (s.settled b).phase = if b.hasMore then .live else .exhausted := by
  unfold settled
  dsimp only
  split
  case h_1 hclosed => exact absurd hclosed h
  case h_2 => rfl

theorem ne_closed_of_live {s : CursorState} (h : s.phase = .live) : s.phase ≠ .closed := by
  rw [h]
  exact Phase.noConfusion

theorem settled_ne_closed {s : CursorState} (h : s.phase ≠ .closed) (b : Batch) :
    (s.settled b).phase ≠ .closed := by
  rw [settled_of_open h]
  split
  · exact Phase.noConfusion
  · exact Phase.noConfusion

/-- Whether the next item has to be fetched. -/
def needsFetch (s : CursorState) : Bool := s.buffer.isEmpty && s.phase == .live

/-- Some items in front of the buffer are handed out. -/
def taken (s : CursorState) (number : Nat) : CursorState :=
  { s with
    buffer := s.buffer.drop number
    consumed := s.consumed + (s.buffer.take number).length }

/-- The cursor of the server that has to be released when the cursor is closed. -/
def toRelease (s : CursorState) : Option String :=
  match s.phase with
  | .live => s.cursorId
  | _ => none

theorem toRelease_of_live {s : CursorState} (h : s.phase = .live) : s.toRelease = s.cursorId := by
  rw [toRelease, h]

theorem toRelease_of_not_live {s : CursorState} (h : s.phase ≠ .live) : s.toRelease = none := by
  unfold toRelease
  split
  · contradiction
  · rfl

theorem toRelease_eq_some_iff {s : CursorState} {id : String} :
    s.toRelease = some id ↔ s.phase = .live ∧ s.cursorId = some id := by
  by_cases h : s.phase = .live
  · rw [toRelease_of_live h, and_iff_right h]
  · rw [toRelease_of_not_live h]
    exact iff_of_false nofun fun hboth => h hboth.1

/-- The server holds no more of a cursor that is empty and needs no fetch. -/
theorem toRelease_of_empty {s : CursorState} (hempty : s.buffer.isEmpty = true)
    (hneeds : s.needsFetch = false) : s.toRelease = none := by
  rw [needsFetch, hempty, Bool.true_and, beq_eq_false_iff_ne] at hneeds
  exact toRelease_of_not_live hneeds

/-- The state once the cursor is closed: what is left in the buffer is dropped. -/
def close (s : CursorState) : CursorState := { s with phase := .closed, buffer := [] }

/-- A fetch begins or ends. -/
def marked (s : CursorState) (on : Bool) : CursorState := { s with fetching := on }

end CursorState

/-- What happens to a cursor. -/
inductive CursorChange where
  | received (b : Batch)
  | settled (b : Batch)
  | taken (number : Nat)
  | closed
  | fetching (on : Bool)

/-- The state that a change leads to. -/
def CursorState.after (s : CursorState) : CursorChange → CursorState
  | .received b => s.received b
  | .settled b => s.settled b
  | .taken number => s.taken number
  | .closed => s.close
  | .fetching on => s.marked on

end AqlClient
