/-!
# The phases of a cursor

A cursor is live, and shown as open, while the server holds further batches for it,
exhausted once it has sent them all, and closed when it gives no more items.
-/

namespace AqlClient

/-- The phase of a cursor. -/
inductive Phase where
  | live
  | exhausted
  | closed
  deriving DecidableEq, Repr, Inhabited

namespace Phase

/-- The name of a phase. -/
def name : Phase → String
  | .live => "open"
  | .exhausted => "exhausted"
  | .closed => "closed"

end Phase

end AqlClient
