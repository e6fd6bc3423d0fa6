import AqlClient.Cursor.Reading

/-!
# Draining a cursor

Three ways of reading a cursor to its end:

* `Cursor.toList` puts all that is left into a list;
* `Cursor.forEach` calls a function on each item until it says to stop;
* `Cursor.iterate` does so without a deadline, and leaves the cursor as it is when it stops.

The first two run under a deadline, and the cursor is closed behind them however they end.
-/

namespace AqlClient

/-- Whether a value is exactly `False`. -/
def Value.isFalse : Value → Bool
  | .bool b => !b
  | _ => false

namespace Cursor

variable {α : Type}

/-- Begins to read all that is left, within a limit: the deadline under which this
happens. -/
def deadline (c : Cursor α) (overall : Value) : Program Deadline := do
  c.ensureAlive
  Program.ofExcept (Deadline.starting (← Program.now) overall (some generalTimeoutLabel))

/-- The limit of a method that reads all that is left. -/
def overall (c : Cursor α) (general timeout : Option Int) : Value :=
  TimeoutSettings.overallOr c.overallLimit general timeout

/-- The items of all further batches, for a number of rounds. -/
def collect (c : Cursor α) (d : Deadline) : Nat → Program (List α)
  | 0 => pure []
  | n + 1 => do
    -- a cursor that someone closes meanwhile ends the list where it is
    if (← c.look).phase = .live then
      c.fetchNext (some d)
      let items ← c.drain
      return items ++ (← collect c d n)
    else return []

/-- All that is left of a cursor, within a limit. The cursor is closed behind it. -/
def toListWithin (c : Cursor α) (limit : Value) : Program (List α) := do
  let d ← c.deadline limit
  c.closing do
    let items ← c.drain
    return items ++ (← c.collect d (← Program.view Scene.horizon))

/-- **All that is left** of a cursor, which is closed behind it. -/
def toList (c : Cursor α) (general timeout : Option Int) : Program (List α) :=
  c.toListWithin (c.overall general timeout)

/-- Takes a number of items, one after the other, for as long as there are any and the
function on them says to go on. The result says whether to go on behind them. -/
def visitItems (pull : Program (Option α)) (visit : α → Program Bool) : Nat → Program Bool
  | 0 => pure true
  | n + 1 => do
    match ← pull with
    | none => return false
    | some a =>
      if ← visit a then visitItems pull visit n
      else return false

/-- Takes items for a number of rounds. A round takes what is in the buffer and one more
item, so that there is an exchange in each but the last. -/
def visitRounds (c : Cursor α) (pull : Program (Option α)) (visit : α → Program Bool) :
    Nat → Program Unit
  | 0 => pure ()
  | n + 1 => do
    let s ← c.look
    if ← visitItems pull visit (s.buffer.length + 1) then visitRounds c pull visit n

/-- Takes items for as long as there are any and the function on them says to go on. -/
def visitAll (c : Cursor α) (pull : Program (Option α)) (visit : α → Program Bool) :
    Program Unit := do
  c.visitRounds pull visit (← Program.view Scene.horizon)

/-- The next item under a deadline. The cursor is not closed behind the last one. -/
def pullUnder (c : Cursor α) (d : Deadline) : Program (Option α) := do
  c.fill (some d)
  c.pop?

/-- **Calls a function on each item that is left** until it says to stop. The cursor is
closed behind it. -/
def forEach (c : Cursor α) (visit : α → Program Bool) (general timeout : Option Int) :
    Program Unit := do
  let d ← c.deadline (c.overall general timeout)
  c.closing (c.visitAll (c.pullUnder d) visit)

/-- A callback as a function that says whether to go on: it says so unless it returns `False`. -/
def untilFalse (callback : α → Program Value) (a : α) : Program Bool := do
  return !(← callback a).isFalse

/-- Goes through the items of a cursor until the function on them says to stop. -/
def iterate (c : Cursor α) (visit : α → Program Bool) : Program Unit := do
  c.ensureAlive
  c.visitAll c.next? visit

end Cursor

end AqlClient
