import AqlClient.Cursor.Closing

/-!
# Reading from a cursor

Items are handed out from the front of the buffer, in the order in which they arrived, and
count as consumed once they have been converted. An item that cannot be converted stays
where it is (`Cursor.handOut`).

A batch is fetched only when the buffer is empty and the server holds more
(`CursorState.needsFetch`). An asynchronous cursor fetches one batch at a time: while it
waits for one, whoever needs another fetch is refused (`Cursor.fetchNext`).

* `Cursor.nextBatch`: the rest of the buffer, after a single fetch if one is needed;
* `Cursor.next?`: the next item; behind the last one the cursor is closed;
* `Cursor.hasNext`: whether there is a next item.
-/

namespace AqlClient

namespace Cursor

variable {α : Type}

/-- Converts some items in front of the buffer and hands them out. -/
def handOut (c : Cursor α) (number : Nat) : Program (List α) := do
  let s ← c.look
  let items ← Program.ofExcept (c.mapper.convert s.consumed (s.buffer.take number))
  c.update (.taken number)
  return items

/-- Hands out the whole buffer. -/
def drain (c : Cursor α) : Program (List α) := do
  let s ← c.look
  c.handOut s.buffer.length

/-- Hands out the item in front of the buffer, if there is one. -/
def pop? (c : Cursor α) : Program (Option α) := do
  return (← c.handOut 1).head?

/-- The name by which the server knows a cursor it holds more batches for. -/
def liveId (c : Cursor α) : Program String := do
  let s ← c.look
  match s.cursorId with
  | some id => return id
  | none => throw .noCursorId

/-- The exchange of a fetch. -/
def fetchBatch (c : Cursor α) (deadline : Option Deadline) : Program Batch := do
  let id ← c.liveId
  let limit ← c.limitUnder deadline
  c.service.fetch id limit

/-- The exchange of a fetch, which nobody else may begin on this cursor meanwhile. -/
def fetchAlone (c : Cursor α) (deadline : Option Deadline) : Program Batch := do
  let s ← c.look
  if s.fetching then throw (.misuse .fetchInProgress s.phase)
  -- the flag is taken back whatever comes of the exchange
  c.update (.fetching true)
  let result ← (c.fetchBatch deadline).attempt
  c.update (.fetching false)
  Program.ofExcept result

/-- Fetches the next batch. -/
def fetchNext (c : Cursor α) (deadline : Option Deadline) : Program Unit := do
  let batch ←
    match c.service.mode with
    | .blocking => c.fetchBatch deadline
    | .async => c.fetchAlone deadline
  c.ingest batch

/-- Fetches batches until there is an item, for a number of rounds. -/
def fillWithin (c : Cursor α) (deadline : Option Deadline) : Nat → Program Unit
  | 0 => pure ()
  | n + 1 => do
    if (← c.look).needsFetch then
      c.fetchNext deadline
      fillWithin c deadline n

/-- Fetches batches until there is an item or no further batch: the server may send empty
ones in between. -/
def fill (c : Cursor α) (deadline : Option Deadline) : Program Unit := do
  c.fillWithin deadline (← Program.view Scene.horizon)

/-- The next batch. A fetch is made only if the buffer is empty. -/
def nextBatch (c : Cursor α) : Program (List α) := do
  if (← c.look).needsFetch then
    c.fetchNext none
  c.drain

/-- The next item. -/
def next? (c : Cursor α) : Program (Option α) := do
  if (← c.look).phase = .closed then
    return none
  c.fill none
  -- nothing came: the server has no more, or someone has closed the cursor meanwhile
  if (← c.look).buffer.isEmpty then
    c.close
    return none
  c.pop?

/-- Whether there is a next item. -/
def hasNext (c : Cursor α) : Program Bool := do
  if (← c.look).phase = .closed then
    return false
  c.fill none
  return !(← c.look).buffer.isEmpty

end Cursor

end AqlClient
