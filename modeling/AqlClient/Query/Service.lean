import AqlClient.Batch
import AqlClient.Catalogue
import AqlClient.Gateway.Exchange
import AqlClient.Query.Basic

/-!
# The query service of a database

The three exchanges that queries need, through the gateway of a database
(`QueryService`): a query is submitted, a further batch of its results is fetched, and the
cursor that the server keeps for it is released. A cursor that is gone already has been
released as well, so that this is not a failure.
-/

namespace AqlClient

/-- The query service of a database. -/
structure QueryService where
  gateway : Gateway
  database : String
  mode : Mode

/-- Whether the server says that a cursor does not exist any more. -/
def ServerError.saysCursorGone (e : ServerError) : Bool :=
  e.code.equal false (.int KnownError.notFound.number) ||
    e.number.equal false (.int KnownError.cursorNotFound.number)

namespace QueryService

/-- The description of a query service. -/
def description (s : QueryService) : String :=
  "_AqlQueryEngine(database=\"" ++ s.database ++ "\")"

/-- The name of the database in the log. -/
def place (s : QueryService) : String := "'" ++ s.database ++ "'"

/-- Logs what happens in a service. -/
def report (s : QueryService) (text : String) : Program Unit :=
  Program.record .info (text ++ s.mode.logEnding)

/-- A call about a cursor. -/
def cursorCall (method id : String) (limit : TimeLimit) : Call where
  method := method
  payload := .null
  path := some (Resource.cursor id)
  params := []
  limit := limit

/-- The call that submits a query. -/
def submission (q : Query) (limit : TimeLimit) : Call where
  method := "POST"
  payload := Value.ofNamed q.payload
  path := some Resource.cursors
  params := []
  limit := limit

/-- Submits a query; the server answers with the first batch. -/
def submit (s : QueryService) (q : Query) (limit : TimeLimit) : Program Batch := do
  s.report ("submitting query to " ++ s.place)
  let envelope ← s.gateway.request s.mode (submission q limit)
  s.report ("finished submitting query to " ++ s.place)
  Program.ofExcept (Batch.ofEnvelope envelope)

/-- Fetches the next batch of a cursor. -/
def fetch (s : QueryService) (id : String) (limit : TimeLimit) : Program Batch := do
  s.report ("cursor fetching a batch: " ++ id ++ " on " ++ s.place)
  let envelope ← s.gateway.request s.mode (cursorCall "PUT" id limit)
  s.report ("cursor finished fetching a batch: " ++ id ++ " on " ++ s.place)
  Program.ofExcept (Batch.ofEnvelope envelope)

/-- Releases a cursor. -/
def release (s : QueryService) (id : String) (limit : TimeLimit) : Program Unit := do
  s.report ("releasing cursor " ++ id ++ " on " ++ s.place)
  match ← (s.gateway.request s.mode (cursorCall "DELETE" id limit)).attempt with
  | .ok _ => s.report ("finished releasing cursor " ++ id ++ " on " ++ s.place)
  | .error (.server e) =>
    if e.saysCursorGone then
      Program.record .info ("cursor " ++ id ++ " was already gone on the server")
    else throw (.server e)
  | .error e => throw e

end QueryService

end AqlClient
