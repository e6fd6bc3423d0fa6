import AqlClient.Failure
import AqlClient.Json.Document
import AqlClient.Response

/-!
# Envelopes

The body of an answer is a JSON object, its *envelope*. The body and not the status says whether the
request succeeded: an envelope with a set error flag is a refusal and has to carry a number
and a text, one whose flag is absent, null or not set is returned as it is, and everything
else is malformed. The status decides alone only when there is no body: with the status of
an error, that is a refusal too.

What an answer comes to (`Envelope.find`) is told in terms of the JSON values in its body
(`Envelope.Finding`). From there on an envelope is a map from names to values (`Entries`), with its
texts as they are shown: what is returned, or how the failure is worded, is made of that
(`Envelope.report`). `Envelope.read` does both.

`Entries.required` and `Entries.optional` take a field of an expected kind out of an
envelope. A flag is never an integer here, so that one is refused where the other is
expected.
-/

namespace AqlClient

namespace Entries

/-- A field as something that a reader makes of it: `none` if the field is absent or null,
and a failure that names the expected kinds if the reader makes nothing of it. -/
def optional {α : Type} (entries : Entries) (name : String) (kinds : List Kind)
    (view : Value → Option α) : Except Failure (Option α) :=
  match (entries.get? name).getD .null with
  | .null => .ok none
  | value =>
    match view value with
    | some a => .ok (some a)
    | none => .error (.malformed (.fieldType name value.kind kinds entries))

/-- A field as something that a reader makes of it, where the field has to be there. -/
def required {α : Type} (entries : Entries) (name : String) (kinds : List Kind)
    (view : Value → Option α) : Except Failure α :=
  match optional entries name kinds view with
  | .ok (some a) => .ok a
  | .ok none => .error (.malformed (.missingField name entries))
  | .error e => .error e

end Entries

namespace Value

/-- The view of a value of one of some kinds. A flag is of no kind but its own. -/
def ofKinds (kinds : List Kind) (value : Value) : Option Value :=
  if kinds.contains value.kind then some value else none

/-- The entries of a value of which members are asked. -/
def members (v : Value) : Except Failure Entries :=
  match v with
  | .dict entries => .ok entries
  | _ => .error .noMember

end Value

/-- Whether a value passes for an integer, as a flag does too. -/
def Json.counts : Json → Bool
  | .int _ | .bool _ => true
  | _ => false

namespace Envelope

/-! ### What an answer comes to -/

/-- **What an answer comes to,** with the values that its body holds. -/
inductive Finding where
  /-- The envelope is returned. -/
  | returned (fields : Fields)
  /-- A refusal by the status alone. -/
  | bare
  /-- A refusal with its number and its text. -/
  | refused (number : Json) (message : Text) (fields : Fields)
  /-- There is no value in the body. -/
  | unparseable
  /-- There is a value that is no object. -/
  | notObject (found : Json)
  /-- The error flag is none. -/
  | errorFlag (fields : Fields)
  /-- A refusal that lacks a field, or has something else there. -/
  | incomplete (name : String) (fields : Fields)

/-- What an envelope with a set flag comes to, by the fields that it has to carry in the order of
the check. -/
def findRefusal (fields : Fields) : Finding :=
  match (fields.get? "errorNum").filter Json.counts with
  | none => .incomplete "errorNum" fields
  | some number =>
    match fields.get? "errorMessage" with
    | some (.str message) => .refused number message fields
    | _ => .incomplete "errorMessage" fields

/-- What an envelope comes to. -/
def judge (fields : Fields) : Finding :=
  match (fields.get? "error").getD .null with
  | .null | .bool false => .returned fields
  | .bool true => findRefusal fields
  | _ => .errorFlag fields

/-- What an answer comes to by the value in its body, if there is one. -/
def findIn : Option Json → Finding
  | none => .unparseable
  | some (.obj fields) => judge fields
  | some found => .notObject found

/-- What an answer comes to. -/
def find (r : Response) : Finding :=
  -- proxies answer with a bare status
  if Document.isBlank r.body && decide (400 ≤ r.status) then .bare
  else findIn (Document.parse? r.body)

/-! ### What is made of it -/

/-- A number in a server's error: an integer, or a flag in the place of one. -/
def errorNumber? : Value → Option Value
  | .int i => some (.int i)
  | .bool b => some (.bool b)
  | _ => none

/-- The code of a refusal: that of its envelope, else the status. -/
def codeOf (envelope : Entries) (status : Int) : Value :=
  ((envelope.get? "code").bind errorNumber?).getD (.int status)

/-- The refusal in a value that is known to carry one, whatever its number and its text. -/
def knownRefusal (status : Int) (request : Option String) (v : Value) :
    Except Failure ServerError := do
  let envelope ← v.members
  match envelope.get? "errorNum", envelope.get? "errorMessage" with
  | some number, some message =>
    return .reported (codeOf envelope status) number message envelope request
  | _, _ => throw .noEntry

/-- The envelope that is returned, or the failure that tells what is wrong. -/
def report (r : Response) (request : Option String) : Finding → Except Failure Entries
  | .returned fields => .ok (Value.ofJsonFields fields)
  | .bare => .error (.server (.bare r.status request))
  | .refused number message fields =>
    let envelope := Value.ofJsonFields fields
    .error (.server (.reported (codeOf envelope r.status) (Value.ofJson number)
      (.str message.shown) envelope request))
  | .unparseable => .error (.malformed (.unparseable r.status request r.text))
  | .notObject found => .error (.malformed (.notObject r.status request (Value.ofJson found)))
  | .errorFlag fields => .error (.malformed (.errorFlag request (Value.ofJsonFields fields)))
  | .incomplete name fields =>
    .error (.malformed (.incompleteError r.status request name (Value.ofJsonFields fields)))

/-- **Reading the body of an answer.** -/
def read (r : Response) (request : Option String) : Except Failure Entries :=
  report r request (find r)

/-- The line that is logged when the server refuses a request by an envelope. -/
def refusalLine (failure : Failure) : Option String :=
  match failure with
  | .server (.reported _ number message _ request) =>
    some ("Server returned error" ++ inParentheses request ++ ": " ++ number.display ++ ", '" ++
      message.display ++ "'")
  | _ => none

end Envelope

end AqlClient
