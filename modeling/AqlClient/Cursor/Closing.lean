import AqlClient.Cursor.Basic

/-!
# Closing a cursor

`Cursor.close` closes a cursor and releases what the server keeps for it; a cursor that is
exhausted or closed already sends nothing. Where a failure is already on its way,
`Cursor.closeAfterFailure` closes the cursor without letting a failure of the client take
its place. `Cursor.closing` puts the two together: whatever happens to a program, the cursor
is closed behind it.
-/

namespace AqlClient

namespace Cursor

variable {α β : Type}

/-- Closes a cursor, and releases what the server keeps for it. -/
def close (c : Cursor α) : Program Unit := do
  let s ← c.look
  -- the cursor is closed first, so that a second caller releases nothing
  c.update .closed
  match s.toRelease with
  | none => pure ()
  | some id => c.service.release id c.plainLimit

/-- The name of the server's cursor inside a message. -/
def serverName (s : CursorState) : String := s.cursorId.getD Value.null.display

/-- Closes a cursor behind a failure. What the client itself reports meanwhile is logged. -/
def closeAfterFailure (c : Cursor α) : Program Unit := do
  match ← c.close.attempt with
  | .ok _ => pure ()
  | .error e =>
    -- an abort, a cancellation and foreign errors go on their way
    if e.isClientError then
      let s ← c.look
      Program.record .warning ("Could not release cursor " ++ serverName s ++ ": " ++ e.message)
    else throw e

/-- **A program behind which the cursor is closed,** whether it ends well or not. -/
def closing (c : Cursor α) (body : Program β) : Program β := do
  match ← body.attempt with
  | .ok b =>
    c.close
    return b
  | .error e =>
    c.closeAfterFailure
    throw e

/-- What is said of a cursor that nobody holds any more, if the server still keeps something
for it. -/
def abandonmentWarning (s : CursorState) : Option String :=
  match s.phase with
  | .live =>
    some ("Cursor " ++ serverName s ++ " was garbage-collected while still open: its " ++
      "server-side resources are retained until the cursor ttl expires. Use the cursor as " ++
      "a context manager, or close it.")
  | _ => none

/-- A cursor that nobody holds any more: the warning is logged and returned. -/
def abandon (c : Cursor α) : Program (Option String) := do
  let s ← c.look
  Program.each (abandonmentWarning s).toList (Program.record .warning)
  return abandonmentWarning s

end Cursor

end AqlClient
