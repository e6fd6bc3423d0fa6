import AqlClient.Cursor.State
import AqlClient.Info
import AqlClient.Mapper
import AqlClient.Query.Service
import AqlClient.Timing.Deadline

/-!
# Cursors

A cursor over the results of a query (`Cursor`): where its state is kept, the query service
it fetches from, what is made of each item, and the time limits it is under. It is opened
with the first batch of the results (`Cursor.opened`).

This module holds what reading and closing a cursor have in common, above all the arrival of
a batch (`Cursor.ingest`): its items join the buffer, the warnings of the query are logged,
and then the phase changes.
-/

namespace AqlClient

/-- A cursor whose items are turned into values of a type. -/
structure Cursor (α : Type) where
  ref : Nat
  service : QueryService
  mapper : Mapper α
  requestLimit : Value
  overallLimit : Value

namespace Cursor

variable {α : Type}

/-- The state of a cursor. -/
def look (c : Cursor α) : Program CursorState := Program.view fun s => s.cursors c.ref

/-- Changes the state of a cursor. -/
def update (c : Cursor α) (change : CursorChange) : Program Unit :=
  Program.update (.cursor c.ref change)

/-- The line that is logged for a warning of the query. -/
def warningLine (c : Cursor α) (warning : Value) : String :=
  "Query on " ++ c.service.place ++ " returned a warning: " ++ warning.display

/-- Logs the warnings that came with a batch. -/
def reportWarnings (c : Cursor α) (b : Batch) : Program Unit :=
  match b.extra with
  | none => pure ()
  | some extra => do
    let warnings ← Program.ofExcept (Info.warnings extra)
    Program.each warnings fun warning => Program.record .warning (c.warningLine warning)

/-- A batch arrives. -/
def ingest (c : Cursor α) (b : Batch) : Program Unit := do
  c.update (.received b)
  -- warnings that cannot be gone through end the arrival half-way
  c.reportWarnings b
  c.update (.settled b)

/-- A cursor that holds the first batch of its results. -/
def opened (service : QueryService) (mapper : Mapper α) (requestLimit overallLimit : Value)
    (first : Batch) : Program (Cursor α) := do
  let ref ← Program.view Scene.cursorCount
  -- the place is free: places are given out in order
  Program.update .cursorMade
  let c : Cursor α := ⟨ref, service, mapper, requestLimit, overallLimit⟩
  c.ingest first
  return c

/-- The limit for a request of a cursor that no deadline is set for. -/
def plainLimit (c : Cursor α) : TimeLimit := ⟨c.requestLimit, .null, some requestTimeoutLabel⟩

/-- The limit for the next request of a cursor. -/
def limitUnder (c : Cursor α) (deadline : Option Deadline) : Program TimeLimit :=
  match deadline with
  | none => pure c.plainLimit
  | some d => do
    Program.ofExcept (d.remaining (← Program.now) c.requestLimit (some requestTimeoutLabel))

/-- Fails if the cursor is closed. -/
def ensureAlive (c : Cursor α) : Program Unit := do
  let s ← c.look
  if s.phase = .closed then throw (.misuse .closed s.phase)

/-- The name of the cursor in descriptions. -/
def idText (s : CursorState) : String :=
  match named s.cursorId with
  | some id => "\"" ++ id ++ "\""
  | none => "no id"

/-- The description of a cursor in a state. -/
def description (c : Cursor α) (s : CursorState) : String :=
  c.service.mode.leadingWord ++ "AqlCursor(" ++ idText s ++ ", " ++ s.phase.name ++
    ", consumed so far: " ++ Numeral.ofNat s.consumed ++ ")"

/-- The additional data of the query, as of the latest batch that brought any. -/
def extra (c : Cursor α) : Program (Option QueryExtra) := do
  let s ← c.look
  match s.extra with
  | none => return none
  | some extra => Program.ofExcept (QueryExtra.ofValue (.dict extra))

end Cursor

end AqlClient
