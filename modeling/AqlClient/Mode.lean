/-!
# Modes of execution

The client works in two modes. In the blocking mode an operation runs to its end before
anything else happens; in the asynchronous mode an operation waits for the answer to each
of its requests while others go on. Both send the same requests and yield the same results;
what tells them apart in the log is the ending `Mode.logEnding`.
-/

namespace AqlClient

/-- How operations are carried out. -/
inductive Mode where
  | blocking
  | async
  deriving DecidableEq, Repr

namespace Mode

/-- The ending of a line that is logged in a mode. -/
def logEnding : Mode → String
  | .blocking => ""
  | .async => ", async"

/-- The name of a mode in messages. -/
def adjective : Mode → String
  | .blocking => "blocking"
  | .async => "async"

/-- What stands in front of the names of things that work in a mode. -/
def leadingWord : Mode → String
  | .blocking => ""
  | .async => "Async"

end Mode

end AqlClient
