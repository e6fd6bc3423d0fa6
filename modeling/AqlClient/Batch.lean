import AqlClient.Envelope

/-!
# Batches

One batch of raw results with the data of the cursor that came along (`Batch`). It is read
from an envelope by `Batch.ofEnvelope`, which checks the fields in a fixed order and reports
the first one at fault. A batch that announces more has to name the cursor; its name may be
a text or an integer, and is kept as a text.
-/

namespace AqlClient

/-- A batch of results, and what the server said about the cursor. -/
structure Batch where
  results : List Value
  hasMore : Bool
  cursorId : Option String
  count : Option Int
  extra : Option Entries
  cached : Option Bool

namespace Batch

/-- The name of a cursor: a text, or an integer as its decimal text. -/
def idText? : Value → Option String
  | .str s => some s
  | .int i => some (Numeral.ofInt i)
  | _ => none

/-- The batch that an envelope carries. -/
def ofEnvelope (envelope : Entries) : Except Failure Batch := do
  let results ← envelope.required "result" [.list] Value.list?
  let hasMore ← envelope.required "hasMore" [.bool] Value.bool?
  let cursorId ← envelope.optional "id" [.str, .int] idText?
  -- further batches could not be asked for
  if hasMore && cursorId.isNone then
    throw (.malformed (.moreWithoutId envelope))
  let count ← envelope.optional "count" [.int] Value.int?
  let extra ← envelope.optional "extra" [.dict] Value.dict?
  let cached ← envelope.optional "cached" [.bool] Value.bool?
  return { results, hasMore, cursorId, count, extra, cached }

/-- The description of a batch: the number of results, and what else is known. -/
def description (b : Batch) : String :=
  let pieces : List (Option String) :=
    [some ("results=<" ++ Numeral.ofNat b.results.length ++ " entries>"),
      some ("has_more=" ++ Value.flagName b.hasMore),
      (named b.cursorId).map fun i => "cursor_id=\"" ++ i ++ "\"",
      b.count.map fun n => "count=" ++ Numeral.ofInt n,
      (b.extra.filter fun e => !e.isEmpty).map fun _ => "extra=..."]
  "CursorBatch(" ++ Value.commas (pieces.filterMap id) ++ ")"

end Batch

end AqlClient
