import AqlClient.Info
import AqlClient.Mode
import AqlClient.Program.Scene

/-!
# What the history says about a cursor

The history of a scene remembers what happens to each cursor, in order. `Ledger.of` reads
it back for one of them: the state the cursor is in, the batches that have arrived, those whose
arrival has been settled, and the items that have been taken out of the buffer. The books are
kept beside the cursor, not by it, so that they say what the state should be
(`Ledger.Sound`): what was taken and what is in the buffer together are what has arrived,
unless the cursor is closed.

`Ledger.Fits` says when a change may happen to a cursor, and `Ledger.Sound.note` that a change
that fits keeps the books sound. Two of its clauses carry the others:

* a batch may arrive only when nothing that arrived is still unread. This is what keeps a batch
  that comes in after the cursor was closed from leaving a gap behind the dropped items;
* a fetch may begin only when the buffer is empty, and nothing may be settled but by the end of
  a fetch. Hence the buffer is empty for as long as a batch is on its way
  (`Ledger.Sound.fetching`).

Between its arrival and its settlement the warnings of a batch are reported. If that fails, the
batch is never settled: its items are there, but the cursor has not been told whether there are
more. `Ledger.Level` says that this is the only reason why a batch is not settled.
-/

namespace AqlClient

/-- Whether the warnings that came with a batch can be gone through. -/
def Batch.Legible (b : Batch) : Prop :=
  ∀ extra, b.extra = some extra → ∃ warnings, Info.warnings extra = .ok warnings

/-- **What the history says about a cursor.** A release is *owed* from the moment the cursor is
closed while the server still holds something for it, until anything else happens. -/
structure Ledger where
  state : CursorState
  arrived : List Batch
  settled : List Batch
  taken : List Value
  owed : Bool

namespace Ledger

/-- The books of a cursor at which nothing has arrived yet. -/
def empty : Ledger := ⟨.initial, [], [], [], false⟩

/-- All items that have arrived, in the order in which they did. -/
def items (L : Ledger) : List Value := L.arrived.flatMap Batch.results

/-- The books after a change. -/
def note (L : Ledger) (change : CursorChange) : Ledger where
  state := L.state.after change
  arrived :=
    match change with
    | .received b => L.arrived ++ [b]
    | _ => L.arrived
  settled :=
    match change with
    | .settled b => L.settled ++ [b]
    | _ => L.settled
  taken :=
    match change with
    | .taken number => L.taken ++ L.state.buffer.take number
    | _ => L.taken
  owed :=
    match change with
    | .closed => L.state.toRelease.isSome
    | _ => false

/-- The books on the cursor at a place after an event. -/
def read (ref : Nat) (L : Ledger) : Event → Ledger
  | .sent _ _ => { L with owed := false }
  | .made r => if r = ref then empty else L
  | .cursor r change => if r = ref then L.note change else L

/-- The books after some more events. -/
def through (ref : Nat) (L : Ledger) (events : List Event) : Ledger :=
  events.foldl (read ref) L

/-- **The books on the cursor at a place,** read off a history. -/
def of (ref : Nat) (history : List Event) : Ledger := empty.through ref history

variable {ref : Nat} {L : Ledger}

@[simp] theorem through_nil : L.through ref [] = L := rfl

@[simp] theorem through_cons (e : Event) (events : List Event) :
    L.through ref (e :: events) = (L.read ref e).through ref events := rfl

theorem through_append (events more : List Event) :
    L.through ref (events ++ more) = (L.through ref events).through ref more := by
  unfold through
  rw [List.foldl_append]

theorem of_append (history events : List Event) :
    of ref (history ++ events) = (of ref history).through ref events :=
  through_append history events

@[simp] theorem note_state (change : CursorChange) :
    (L.note change).state = L.state.after change := rfl

theorem read_made_of_ne {r : Nat} (h : r ≠ ref) : L.read ref (.made r) = L := if_neg h

@[simp] theorem read_cursor_self (change : CursorChange) :
    L.read ref (.cursor ref change) = L.note change := if_pos rfl

theorem read_cursor_of_ne {r : Nat} (change : CursorChange) (h : r ≠ ref) :
    L.read ref (.cursor r change) = L := if_neg h

/-- The books after one more change of the cursor. -/
theorem of_change (history : List Event) (change : CursorChange) :
    of ref (history ++ [.cursor ref change]) = (of ref history).note change := by
  rw [of_append, through_cons, through_nil, read_cursor_self]

theorem items_note (change : CursorChange) :
    (L.note change).items =
      L.items ++ match change with
        | .received b => b.results
        | _ => [] := by
  cases change <;> simp [items, note]

/-- **All batches that have arrived are settled,** unless the warnings of one of them cannot be
gone through. -/
def Level (L : Ledger) : Prop := (∀ b ∈ L.arrived, b.Legible) → L.settled = L.arrived

theorem Level.note (h : L.Level) {change : CursorChange}
    (hr : ∀ b, change ≠ .received b) (hs : ∀ b, change ≠ .settled b) :
    (L.note change).Level := by
  cases change with
  | received b => exact absurd rfl (hr b)
  | settled b => exact absurd rfl (hs b)
  | taken number => exact h
  | closed => exact h
  | fetching on => exact h

/-- A batch that arrives and is settled leaves the books level. -/
theorem Level.receive_settle (h : L.Level) (b : Batch) :
    ((L.note (.received b)).note (.settled b)).Level := by
  intro hb
  change L.settled ++ [b] = L.arrived ++ [b]
  rw [h fun a ha => hb a (List.mem_append_left _ ha)]

/-- A batch that cannot be settled leaves the books level, too. -/
theorem Level.receive_illegible {b : Batch} (hb : ¬ b.Legible) :
    (L.note (.received b)).Level :=
  fun h => absurd (h b (List.mem_append_right _ (List.mem_singleton_self b))) hb

/-! ### When a change fits -/

/-- When a batch may arrive: everything that arrived before has been handed out. A blocking cursor
gets none once it is closed. -/
structure Awaits (mode : Mode) (L : Ledger) : Prop where
  buffer : L.state.buffer = []
  taken : L.taken = L.items
  flag : L.state.fetching = false
  phase : L.state.phase ≠ .exhausted
  blocking : mode = .blocking → L.state.phase = .live

/-- A batch that is awaited joins what has been taken and what is left, so that nothing is
missing. -/
theorem Awaits.whole {mode : Mode} (h : L.Awaits mode) (b : Batch) :
    (L.note (.received b)).taken ++ (L.note (.received b)).state.buffer =
      (L.note (.received b)).items := by
  rw [items_note]
  change L.taken ++ (L.state.buffer ++ b.results) = _
  rw [h.buffer, List.nil_append, h.taken]

/-- When a change may happen to a cursor. -/
def Fits (mode : Mode) (L : Ledger) : CursorChange → Prop
  | .received _ => L.Awaits mode
  | .settled _ => L.state.fetching = false ∧ L.state.phase ≠ .exhausted
  | .taken _ => True
  | .closed => True
  | .fetching on =>
    if on then mode = .async ∧ L.state.buffer = [] ∧ L.state.phase = .live
    else L.state.fetching = true

/-- When a fetch may be sent: the server has more, and all that has arrived is handed out. The
flag of an asynchronous cursor is set before. -/
structure MayFetch (mode : Mode) (L : Ledger) : Prop where
  level : L.Level
  buffer : L.state.buffer = []
  phase : L.state.phase = .live
  flag : L.state.fetching = decide (mode = .async)

/-- When a release may be sent. -/
structure MayRelease (L : Ledger) : Prop where
  level : L.Level
  owed : L.owed = true

/-- **Sound books.** -/
structure Sound (mode : Mode) (L : Ledger) : Prop where
  /-- What has been taken and what is in the buffer have arrived, in this order. -/
  within : L.taken ++ L.state.buffer <+: L.items
  /-- Unless the cursor is closed, nothing else has arrived. -/
  whole : L.state.phase ≠ .closed → L.taken ++ L.state.buffer = L.items
  /-- What counts as consumed is what has been taken. -/
  consumed : L.state.consumed = L.taken.length
  /-- The batches are counted. -/
  batches : L.state.batches = L.arrived.length
  /-- While a batch is on its way, everything that has arrived has been handed out. -/
  fetching : L.state.fetching = true →
    mode = .async ∧ L.state.buffer = [] ∧ L.taken = L.items ∧ L.state.phase ≠ .exhausted
  /-- A live cursor has been told of further batches. -/
  more : L.state.phase = .live → L.state.hasMore = true
  /-- What the cursor has been told is what the latest batch that was settled said. -/
  latest : L.settled.getLast?.map Batch.hasMore = some L.state.hasMore
  /-- A release is owed by closed cursors only, of which the server holds more batches. -/
  owed : L.owed = true → L.state.phase = .closed ∧ L.state.hasMore = true

/-- **Exact books:** what has been taken is a prefix of what has arrived, what is left is in the
buffer unless the cursor is closed, and the counts are right. -/
structure Exact (L : Ledger) : Prop where
  ordered : L.taken <+: L.items
  whole : L.state.phase ≠ .closed → L.taken ++ L.state.buffer = L.items
  consumed : L.state.consumed = L.taken.length
  batches : L.state.batches = L.arrived.length

namespace Sound

variable {mode : Mode}

/-- What has been taken has arrived, in the same order. -/
theorem taken_prefix (h : L.Sound mode) : L.taken <+: L.items :=
  (List.prefix_append _ _).trans h.within

/-- A blocking cursor marks no fetch. -/
theorem idle (h : L.Sound mode) (hmode : mode = .blocking) : L.state.fetching = false := by
  cases hf : L.state.fetching with
  | false => rfl
  | true =>
    -- sound books mark fetches of asynchronous cursors only
    have hasync := (h.fetching hf).1
    rw [hmode] at hasync
    cases hasync

/-- A live cursor with an empty buffer has handed out all that has arrived. -/
theorem all_taken (h : L.Sound mode) (hbuffer : L.state.buffer = [])
    (hlive : L.state.phase = .live) : L.taken = L.items := by
  have hopen : L.state.phase ≠ .closed := by
    rw [hlive]
    exact Phase.noConfusion
  rw [← h.whole hopen, hbuffer, List.append_nil]

theorem exact (h : L.Sound mode) : L.Exact := ⟨h.taken_prefix, h.whole, h.consumed, h.batches⟩

/-- Closing drops the buffer and keeps the rest. -/
theorem close (h : L.Sound mode) : (L.note .closed).Sound mode where
  within := by
    rw [items_note, List.append_nil]
    exact (List.append_nil L.taken).symm ▸ h.taken_prefix
  whole hp := absurd rfl hp
  consumed := h.consumed
  batches := h.batches
  fetching hf := by
    obtain ⟨hm, -, ht, -⟩ := h.fetching hf
    rw [items_note, List.append_nil]
    exact ⟨hm, rfl, ht, Phase.noConfusion⟩
  more hp := Phase.noConfusion hp
  latest := h.latest
  owed ho := by
    -- there is something to release only if the cursor was live
    obtain ⟨id, hid⟩ := Option.isSome_iff_exists.1 (show L.state.toRelease.isSome = true from ho)
    exact ⟨rfl, h.more (CursorState.toRelease_eq_some_iff.1 hid).1⟩

/-- Items go from the front of the buffer to what has been taken. -/
theorem take (h : L.Sound mode) (number : Nat) : (L.note (.taken number)).Sound mode := by
  have hsame : (L.note (.taken number)).taken ++ (L.note (.taken number)).state.buffer =
      L.taken ++ L.state.buffer := by
    change (L.taken ++ L.state.buffer.take number) ++ L.state.buffer.drop number = _
    rw [List.append_assoc, List.take_append_drop]
  have hitems : (L.note (.taken number)).items = L.items := by
    rw [items_note, List.append_nil]
  exact
    { within := by rw [hsame, hitems]; exact h.within
      whole := fun hp => by rw [hsame, hitems]; exact h.whole hp
      consumed := by
        change L.state.consumed + (L.state.buffer.take number).length = (L.taken ++ _).length
        rw [List.length_append, h.consumed]
      batches := h.batches
      fetching := fun hf => by
        obtain ⟨hm, hb, ht, hp⟩ := h.fetching hf
        -- there is nothing in the buffer that could be taken
        have hnone : ∀ n, L.state.buffer.take n = [] := fun n => by rw [hb, List.take_nil]
        refine ⟨hm, ?_, ?_, hp⟩
        · change L.state.buffer.drop number = []
          rw [hb, List.drop_nil]
        · rw [hitems, ← ht]
          change L.taken ++ L.state.buffer.take number = L.taken
          rw [hnone, List.append_nil]
      more := h.more
      latest := h.latest
      owed := fun ho => by simp [note] at ho }

/-- A batch joins the buffer behind everything that arrived before. -/
theorem receive (h : L.Sound mode) {b : Batch} (hfit : L.Awaits mode) :
    (L.note (.received b)).Sound mode :=
  { within := (hfit.whole b) ▸ List.prefix_refl _
    whole := fun _ => hfit.whole b
    consumed := h.consumed
    batches := by
      change L.state.batches + 1 = (L.arrived ++ [b]).length
      rw [List.length_append, h.batches]
      rfl
    fetching := fun hf => absurd (hfit.flag.symm.trans hf) Bool.false_ne_true
    more := h.more
    latest := h.latest
    owed := fun ho => by simp [note] at ho }

/-- Once a batch is settled, the phase follows what it said. -/
theorem settle (h : L.Sound mode) {b : Batch} (hfit : L.Fits mode (.settled b)) :
    (L.note (.settled b)).Sound mode := by
  obtain ⟨hf, hp⟩ := hfit
  have hitems : (L.note (.settled b)).items = L.items := by
    rw [items_note, List.append_nil]
  exact
    { within := hitems ▸ h.within
      whole := fun hc => hitems ▸ h.whole fun hclosed => hc (by
        exact CursorState.settled_of_closed hclosed b)
      consumed := h.consumed
      batches := h.batches
      fetching := fun hf' => absurd (hf.symm.trans hf') Bool.false_ne_true
      more := fun hlive => by
        change b.hasMore = true
        change (L.state.settled b).phase = .live at hlive
        cases hm : b.hasMore with
        | true => rfl
        | false =>
          by_cases hclosed : L.state.phase = .closed
          · rw [CursorState.settled_of_closed hclosed] at hlive
            cases hlive
          · rw [CursorState.settled_of_open hclosed, hm] at hlive
            cases hlive
      latest := by
        change (L.settled ++ [b]).getLast?.map Batch.hasMore = some b.hasMore
        rw [List.getLast?_append, List.getLast?_singleton]
        rfl
      owed := fun ho => by simp [note] at ho }

/-- A fetch begins with an empty buffer, behind everything that has arrived. -/
theorem mark (h : L.Sound mode) {on : Bool} (hfit : L.Fits mode (.fetching on)) :
    (L.note (.fetching on)).Sound mode := by
  have hitems : (L.note (.fetching on)).items = L.items := by
    rw [items_note, List.append_nil]
  exact
    { within := hitems ▸ h.within
      whole := fun hc => hitems ▸ h.whole hc
      consumed := h.consumed
      batches := h.batches
      fetching := fun hon => by
        obtain rfl : on = true := hon
        obtain ⟨hm, hb, hp⟩ : mode = .async ∧ L.state.buffer = [] ∧ L.state.phase = .live := hfit
        refine ⟨hm, hb, hitems.symm ▸ h.all_taken hb hp, fun he => ?_⟩
        exact Phase.noConfusion (hp.symm.trans he)
      more := h.more
      latest := h.latest
      owed := fun ho => by simp [note] at ho }

/-- **A change that fits keeps the books sound.** -/
theorem note (h : L.Sound mode) {change : CursorChange} (hfit : L.Fits mode change) :
    (L.note change).Sound mode := by
  cases change with
  | received b => exact h.receive hfit
  | settled b => exact h.settle hfit
  | taken number => exact h.take number
  | closed => exact h.close
  | fetching on => exact h.mark hfit

/-- Sending a request changes nothing but what is owed. -/
theorem settleDebt (h : L.Sound mode) : ({ L with owed := false } : Ledger).Sound mode where
  within := h.within
  whole := h.whole
  consumed := h.consumed
  batches := h.batches
  fetching := h.fetching
  more := h.more
  latest := h.latest
  owed ho := Bool.noConfusion ho

end Sound

end Ledger

end AqlClient
