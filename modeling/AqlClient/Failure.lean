import AqlClient.Cursor.Phase
import AqlClient.Timing.TimeLimit
import AqlClient.Value.Display
import AqlClient.Value.Writer

/-!
# Failures

Everything that can go wrong, by cause. Each family is a type of its own, and each has its
wording in one function, so that a message is a function of the cause:

* `ServerError`: the server refused the request;
* `Malformed`: an answer, or an item of it, does not have the expected shape, or a payload
  cannot be written;
* `TransportFault` and `Timeout`: the exchange did not take place, or took too long;
* `CursorMisuse`: a cursor cannot do what it is asked in its phase;
* `Refusal`: an argument is not acceptable.

`Failure` joins them with what comes from outside: an error of the caller's code or of the
transport that is none of these, the caller's wish to abort, the cancellation of a task, and
a value that the operation cannot handle: it has the wrong type, lacks a member or an entry,
or is too large.

The code that cleans up swallows no failures but those of the five families that the client
itself reports (`Failure.isClientError`).
-/

namespace AqlClient

/-- A description between parentheses behind a message, if there is one. -/
def inParentheses (description : Option String) : String :=
  match named description with
  | some d => " (" ++ d ++ ")"
  | none => ""

/-! ### Refusals by the server -/

/-- A request that the server refused: it said so in the body of its answer, or sent the
status of an error with an empty body. What a body says is kept as it came. -/
inductive ServerError where
  | bare (status : Int) (request : Option String)
  | reported (code number message : Value) (envelope : Entries) (request : Option String)

namespace ServerError

/-- The status code of the refusal. -/
def code : ServerError → Value
  | .bare status _ => .int status
  | .reported code .. => code

/-- The number of the error in the server's catalogue. -/
def number : ServerError → Value
  | .bare status _ => .int status
  | .reported _ number .. => number

/-- The text that came with the number. -/
def errorMessage : ServerError → Value
  | .bare status _ => .str ("HTTP " ++ Numeral.ofInt status)
  | .reported _ _ message .. => message

/-- The answer as far as it was read. -/
def answer : ServerError → Value
  | .bare .. => .null
  | .reported _ _ _ envelope _ => .dict envelope

/-- The request that was refused. -/
def request : ServerError → Option String
  | .bare _ request => request
  | .reported _ _ _ _ request => request

/-- The wording of a refusal. -/
def message : ServerError → String
  | .bare status request =>
    "HTTP " ++ Numeral.ofInt status ++ " with empty body" ++ inParentheses request
  | .reported code number text _ _ =>
    text.display ++ " (errorNum=" ++ number.display ++ ", code=" ++ code.display ++ ")"

end ServerError

/-! ### Malformed answers -/

/-- What is wrong with an answer, an item or a payload. -/
inductive Malformed where
  | unparseable (status : Int) (request : Option String) (text : String)
  | notObject (status : Int) (request : Option String) (found : Value)
  | incompleteError (status : Int) (request : Option String) (field : String)
      (envelope : Entries)
  | errorFlag (request : Option String) (envelope : Entries)
  | missingField (field : String) (envelope : Entries)
  | fieldType (field : String) (found : Kind) (expected : List Kind) (envelope : Entries)
  | moreWithoutId (envelope : Entries)
  | nonTextName (envelope : Entries)
  | emptyToken (envelope : Entries)
  | incomplete (subject key : String) (found : Value)
  | unconverted (index : Int) (reason : String) (item : Value)
  | unencodable (reason : Unencodable)

namespace Malformed

/-- The name of a result by its position. -/
def resultName (index : Int) : String := "result[" ++ Numeral.ofInt index ++ "]"

/-- The field or item at fault. -/
def field : Malformed → Option String
  | .unparseable .. => none
  | .notObject .. => none
  | .incompleteError _ _ field _ => some field
  | .errorFlag .. => some "error"
  | .missingField field _ => some field
  | .fieldType field .. => some field
  | .moreWithoutId _ => some "id"
  | .nonTextName _ => some "result"
  | .emptyToken _ => some "jwt"
  | .incomplete _ key _ => some key
  | .unconverted index .. => some (resultName index)
  | .unencodable _ => some "payload"

/-- The answer as far as it was read. -/
def answer : Malformed → Value
  | .unparseable _ _ text => .dict [(.str "raw_response", .str text)]
  | .notObject _ _ found => found
  | .incompleteError _ _ _ envelope => .dict envelope
  | .errorFlag _ envelope => .dict envelope
  | .missingField _ envelope => .dict envelope
  | .fieldType _ _ _ envelope => .dict envelope
  | .moreWithoutId envelope => .dict envelope
  | .nonTextName envelope => .dict envelope
  | .emptyToken envelope => .dict (envelope.erase "jwt")
  | .incomplete _ _ found => found
  | .unconverted _ _ item => item
  | .unencodable _ => .null

/-- The status of an answer at the head of a message. -/
def statusText (status : Int) (request : Option String) : String :=
  " (HTTP " ++ Numeral.ofInt status ++ ")" ++ inParentheses request

/-- The wording of what is wrong. -/
def message : Malformed → String
  | .unparseable status request text =>
    "Unparseable response" ++ statusText status request ++ ": '" ++
      String.ofList (text.toList.take 200) ++ "'"
  | .notObject status request found =>
    "Response" ++ statusText status request ++ " is a JSON " ++ found.kind.name ++
      ", not an object."
  | .incompleteError status request field _ =>
    "Error envelope" ++ statusText status request ++ " lacks a valid '" ++ field ++ "'."
  | .errorFlag request _ => "Field 'error' is not a boolean" ++ inParentheses request ++ "."
  | .missingField field _ => "Response lacks required field '" ++ field ++ "'."
  | .fieldType field found expected _ =>
    "Field '" ++ field ++ "' has type " ++ found.name ++ ", expected " ++
      "/".intercalate (expected.map Kind.name) ++ "."
  | .moreWithoutId _ => "Response has 'hasMore' set but carries no cursor 'id'."
  | .nonTextName _ => "Unexpected non-string database name in response."
  | .emptyToken _ => "Empty token from the authentication endpoint."
  | .incomplete subject key _ => "Cannot parse " ++ subject ++ ": missing '" ++ key ++ "'."
  | .unconverted index reason _ => "Could not convert " ++ resultName index ++ ": " ++ reason
  | .unencodable reason => "Could not encode request payload: " ++ reason.message

end Malformed

/-! ### Failed exchanges -/

/-- An exchange that did not take place, with the URL it was for and the body it carried. -/
inductive TransportFault where
  | lost (text : String) (endpoint payload : Option String)
  | incomplete (url reason : String) (endpoint payload : Option String)
  deriving DecidableEq, Repr

namespace TransportFault

/-- The wording of a fault. -/
def message : TransportFault → String
  | .lost text .. => text
  | .incomplete url reason .. => "Could not complete request to " ++ url ++ ": " ++ reason

/-- The URL of the request. -/
def endpoint : TransportFault → Option String
  | .lost _ endpoint _ => endpoint
  | .incomplete _ _ endpoint _ => endpoint

/-- The body of the request. -/
def payload : TransportFault → Option String
  | .lost _ _ payload => payload
  | .incomplete _ _ _ payload => payload

end TransportFault

/-- The part of an exchange that took too long. A transport may name parts of its own. -/
inductive TimeoutPart where
  | connect
  | read
  | write
  | pool
  | generic
  | other (name : String)
  deriving DecidableEq, Repr

/-- The name of the part that took too long. -/
def TimeoutPart.name : TimeoutPart → String
  | .connect => "connect"
  | .read => "read"
  | .write => "write"
  | .pool => "pool"
  | .generic => "generic"
  | .other name => name

/-- The part with a given name. -/
def TimeoutPart.ofName (name : String) : TimeoutPart :=
  let known := [TimeoutPart.connect, .read, .write, .pool, .generic]
  (known.find? fun part => part.name == name).getD (.other name)

/-- Something took too long: one exchange, under the limit attached to it, or a method of
several requests, whose deadline has passed. -/
inductive Timeout where
  | exchange (part : TimeoutPart) (text : String) (limit : TimeLimit)
      (endpoint payload : Option String)
  | deadline (label : Option String) (overall : Value)

namespace Timeout

/-- The wording of a timeout: the setting that was honoured stands behind it. -/
def message : Timeout → String
  | .exchange _ text limit _ _ =>
    let what := if text.isEmpty then "timed out" else text
    match limit.honoured with
    | some ms => what ++ " (timeout honoured: " ++ settingDescription limit.label ms ++ ")"
    | none => what
  | .deadline label overall =>
    "Operation timed out (timeout honoured: " ++ settingDescription label overall ++ ")."

/-- The part of an exchange that took too long. -/
def part : Timeout → TimeoutPart
  | .exchange part .. => part
  | .deadline .. => .generic

/-- The URL of the request, if a single one is concerned. -/
def endpoint : Timeout → Option String
  | .exchange _ _ _ endpoint _ => endpoint
  | .deadline .. => none

/-- The body of the request, if a single one is concerned. -/
def payload : Timeout → Option String
  | .exchange _ _ _ _ payload => payload
  | .deadline .. => none

end Timeout

/-! ### Misuse and refused arguments -/

/-- What a cursor cannot do in its phase. -/
inductive CursorMisuse where
  | closed
  | fetchInProgress
  deriving DecidableEq, Repr

/-- The wording of a misuse. -/
def CursorMisuse.message : CursorMisuse → String
  | .closed => "Cursor is closed."
  | .fetchInProgress => "A batch fetch is already in progress on this cursor."

/-- Why an argument is not acceptable. -/
inductive Refusal where
  | credentials
  | queryText
  | bindNames (literals : List String)
  | pairLength (index length : Nat)
  | batchSize
  | memoryLimit
  | ttl
  | options
  | optionCount (name : String)
  | optionRuntime
  | optionRules
  | noTransport (gateway : String) (adjective : String)
  deriving DecidableEq, Repr

/-- The wording of a refusal. -/
def Refusal.message : Refusal → String
  | .credentials =>
    "Unsupported credentials. Pass an AuthProvider, a (username, password) pair, " ++
      "a bearer token string or None."
  | .queryText => "The query text must be a string."
  | .bindNames literals =>
    "Bind variable names must be strings: [" ++ Value.commas literals ++ "]."
  | .pairLength index length =>
    "dictionary update sequence element #" ++ Numeral.ofNat index ++ " has length " ++
      Numeral.ofNat length ++ "; 2 is required"
  | .batchSize => "Parameter 'batch_size' must be a positive integer."
  | .memoryLimit => "Parameter 'memory_limit' must be a non-negative integer."
  | .ttl => "Parameter 'ttl' must be a positive number."
  | .options => "Parameter 'options' must be an AqlOptions object."
  | .optionCount name => "Option '" ++ name ++ "' must be a non-negative integer."
  | .optionRuntime => "Option 'max_runtime' must be a non-negative number."
  | .optionRules => "Option 'optimizer_rules' must be a list of strings."
  | .noTransport gateway adjective => gateway ++ " has no " ++ adjective ++ " transport to use."

/-! ### All failures -/

/-- A failure of an operation. -/
inductive Failure where
  | server (e : ServerError)
  | malformed (e : Malformed)
  | transport (e : TransportFault)
  | timeout (e : Timeout)
  | misuse (e : CursorMisuse) (phase : Phase)
  | refused (e : Refusal)
  | noCursorId
  | raised (text : String)
  | aborted (text : String)
  | cancelled
  | wrongType
  | noMember
  | noEntry
  | overflow
  | foreign (name : String)

namespace Failure

/-- The wording of a failure; some kinds have none. -/
def message : Failure → String
  | .server e => e.message
  | .malformed e => e.message
  | .transport e => e.message
  | .timeout e => e.message
  | .misuse e _ => e.message
  | .refused e => e.message
  | .noCursorId => "Open cursor has no cursor id."
  | .raised text => text
  | .aborted text => text
  | .cancelled | .wrongType | .noMember | .noEntry | .overflow | .foreign _ => ""

/-- The failures that the client itself reports. -/
def isClientError : Failure → Bool
  | .server _ | .malformed _ | .transport _ | .timeout _ | .misuse .. => true
  | _ => false

/-- Whether the transport failed: the exchange broke off or took too long. -/
def isTransport : Failure → Bool
  | .transport _ | .timeout _ => true
  | _ => false

end Failure

end AqlClient
