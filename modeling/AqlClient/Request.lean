import AqlClient.Headers
import AqlClient.Timing.TimeLimit
import AqlClient.Value.Basic

/-!
# Requests

What is handed to a transport for one exchange: the method, the URL, the headers, the body,
the parameters for the query part of the URL, and the limit on the time it may take.
-/

namespace AqlClient

/-- A request as a transport gets it. -/
structure Request where
  method : String
  url : String
  headers : Headers
  body : Option String
  params : Entries
  limit : TimeLimit

end AqlClient
