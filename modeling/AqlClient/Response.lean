import AqlClient.Headers
import AqlClient.Text.LetterCase
import AqlClient.Text.Utf8

/-!
# Responses

What an exchange yields whatever its status: the status, the headers under small names, and
the bytes of the body. `Response.text` reads the body as UTF-8 and never fails.
-/

namespace AqlClient

/-- The outcome of a completed exchange. -/
structure Response where
  status : Int
  headers : Headers
  body : List UInt8
  deriving DecidableEq, Repr

namespace Response

/-- A response from what the transport delivers: header names are put in small letters, and
of two names that become equal the later value counts. -/
def ofParts (status : Int) (headers : Headers) (body : List UInt8) : Response where
  status := status
  headers := Named.merge [] (headers.map fun entry => (LetterCase.lower entry.1, entry.2))
  body := body

/-- The body as a text. -/
def text (r : Response) : String := Utf8.decode r.body

end Response

end AqlClient
