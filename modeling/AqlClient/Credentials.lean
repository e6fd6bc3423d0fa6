import AqlClient.Failure
import AqlClient.Text.Base64
import AqlClient.Text.Utf8

/-!
# Credentials

How a session proves who it is: not at all, by a name and a password, by a token, or by a
name and a password that are exchanged for a token once, when the session is made
(`Credentials`). The header that a request carries is `Credentials.header`.

Descriptions never show a secret as it is. `redact` keeps at most a few characters in front
of it; one that is too short for that is replaced by as many asterisks. Names and secrets are
texts, but nobody insists on it: another value goes into the header as the text of that
value, and it can be described only if it has a length and is short (`redactValue`).
-/

namespace AqlClient

/-- How a session proves who it is. -/
inductive Credentials where
  | anonymous
  | basic (username password : Value)
  | bearer (token : Value)
  | login (username password : Value)

/-- Credentials as a caller gives them: ready-made, or as a value that stands for some. -/
inductive CredentialsChoice where
  | ready (c : Credentials)
  | shorthand (v : Value)

/-- The first characters of a text. A negative number counts from the end. -/
def leading (text : List Char) (count : Int) : List Char :=
  text.take (if count < 0 then (text.length : Int) + count else count).toNat

/-- What stands behind a shortened secret. -/
def redactionEnding : String := "..."

/-- What stands for the value of a header that must not be shown. -/
def redactedValue : String := "***"

/-- **A secret as it may be shown.** If the secret and the ending together exceed the
length allowed, the secret is cut so that they do not; else it is masked, or shown as it is
if it need not be hidden. -/
def redact (secret : String) (maxLength : Int) (hideIfShort : Bool) : String :=
  -- lengths count characters
  let chars := secret.toList
  if maxLength < (chars.length : Int) + redactionEnding.length then
    String.ofList (leading chars (maxLength - redactionEnding.length)) ++ redactionEnding
  else if hideIfShort then String.ofList (chars.map fun _ => '*')
  else secret

/-- A secret of any kind as it may be shown. Only a text can be cut. -/
def redactValue (secret : Value) (maxLength : Int) : Except Failure String :=
  match secret, secret.length? with
  | .str s, _ => .ok (redact s maxLength true)
  | _, some size =>
    if maxLength < (size : Int) + redactionEnding.length then .error .wrongType
    else .ok (String.ofList (List.replicate size '*'))
  | _, none => .error .wrongType

namespace Credentials

/-- The kinds of credentials. -/
inductive Kind where
  | anonymous
  | basic
  | bearer
  | login
  deriving DecidableEq, Repr

/-- The name of a kind of credentials. -/
def Kind.name : Kind → String
  | .anonymous => "NoAuth"
  | .basic => "BasicAuth"
  | .bearer => "BearerTokenAuth"
  | .login => "JWTAuth"

/-- The kind of credentials. -/
def kind : Credentials → Kind
  | .anonymous => .anonymous
  | .basic .. => .basic
  | .bearer _ => .bearer
  | .login .. => .login

/-- The text of a basic authentication header behind its scheme. -/
def basicToken (username password : String) : String :=
  Base64.encode (Utf8.encode (username ++ ":" ++ password))

/-- The value of the header that carries the credentials. There is none while a login has
not been exchanged for a token. -/
def header : Credentials → Option String
  | .anonymous => none
  | .basic username password => some ("Basic " ++ basicToken username.display password.display)
  | .bearer token => some ("Bearer " ++ token.display)
  | .login .. => none

/-- The description of a name and a password. -/
def pairDescription (username password : Value) : Except Failure String := do
  return "(username=\"" ++ username.display ++ "\", password=" ++ (← redactValue password 6) ++
    ")"

/-- The description of credentials, without secrets. -/
def description (c : Credentials) : Except Failure String := do
  let details ←
    match c with
    | .anonymous => pure "()"
    | .basic username password => pairDescription username password
    | .bearer token => pure ("(" ++ (← redactValue token 15) ++ ")")
    | .login username password => pairDescription username password
  return c.kind.name ++ details

/-- Whether two credentials count as the same: the names and passwords of two logins agree,
or two of another kind lead to the same header. -/
def sameAs : Credentials → Credentials → Bool
  | .login u p, .login v q => u.equal true v && p.equal true q
  | a, b => a.kind == b.kind && a.header == b.header

/-- Whether credentials can be put into a set. -/
def isKey : Credentials → Bool
  | .login username password => username.isKey && password.isKey
  | _ => true

/-- Credentials without those that are the same as earlier ones. -/
def distinct : List Credentials → List Credentials
  | [] => []
  | c :: rest => c :: (distinct rest).filter fun d => !c.sameAs d

/-- What a login sends. -/
def loginPayload (username password : Value) : Entries :=
  [(.str "username", username), (.str "password", password)]

end Credentials

/-- The credentials that a caller gives, `none` if the setting is not supplied. A text
stands for a token, a pair for a name and a password, and null for none at all. -/
def CredentialsChoice.credentials? : CredentialsChoice → Except Failure (Option Credentials)
  | .ready c => .ok (some c)
  | .shorthand .unset => .ok none
  | .shorthand .null => .ok (some .anonymous)
  | .shorthand (.str token) => .ok (some (.bearer (.str token)))
  | .shorthand (.tuple [username, password]) => .ok (some (.basic username password))
  | .shorthand _ => .error (.refused .credentials)

end AqlClient
