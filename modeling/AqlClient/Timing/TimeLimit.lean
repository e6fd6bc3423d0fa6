import AqlClient.Value.Display

/-!
# Time limits

A request may take a number of milliseconds; zero and nothing at all both mean that nothing
limits it (`limiting`). The number is an integer, unless a setting says something else: what
is set is kept as it is, and only where it is reckoned with does it have to be a number.

Beside the limit of the single request (`TimeLimit.request`), a limit carries what the user
would recognise in a message: the value that was set (`TimeLimit.nominal`), which is larger
when the request only has the rest of a longer time, and the name of the setting
(`TimeLimit.label`).

`TimeoutSettings.single` and `TimeoutSettings.overall` choose among the values given for
one call and those of the settings. A call with one request takes the least of the values
given; a call with several takes the one meant for it.
-/

namespace AqlClient

/-- The name of the setting for a single request. -/
def requestTimeoutLabel : String := "request_timeout_ms"

/-- The name of the setting for a method of several requests. -/
def generalTimeoutLabel : String := "general_method_timeout_ms"

/-- The name of the setting that stands for either of the two. -/
def timeoutLabel : String := "timeout_ms"

/-- What limits something: what counts as false limits nothing. -/
def limiting (ms : Value) : Option Value := if ms.truthy then some ms else none

/-- What limits a request, and how the user knows it. -/
structure TimeLimit where
  request : Value
  nominal : Value
  label : Option String

namespace TimeLimit

/-- No limit and no name. -/
def none : TimeLimit := ⟨.null, .null, .none⟩

/-- Whether a limit holds any value. -/
def isSet (l : TimeLimit) : Bool := l.nominal.kind != .null || l.request.kind != .null

/-- A limit as it is attached to a request: one without a value loses its name. -/
def attached (l : TimeLimit) : TimeLimit := if l.isSet then l else none

/-- The value that a message names: the one the user set, else that of the request. -/
def honoured (l : TimeLimit) : Option Value := (limiting l.nominal).or (limiting l.request)

end TimeLimit

/-- The name of a setting, unless it is missing or empty. -/
def named (label : Option String) : Option String := label.filter (· != "")

/-- The setting that a message names: its value, behind its name if it has one. -/
def settingDescription (label : Option String) (ms : Value) : String :=
  match named label with
  | some l => l ++ " = " ++ ms.display ++ " ms"
  | none => ms.display ++ " ms"

/-- The limits in effect: for a request, and for a method of several requests. -/
structure TimeoutSettings where
  request : Value
  general : Value

namespace TimeoutSettings

/-- **The limit of a single request.** It is the least of the values given for the call;
of two equal ones the more specific setting is named. Without any the settings decide. -/
def single (s : TimeoutSettings) (request timeout : Option Int) : Value × String :=
  match request, timeout with
  | some r, some t => if r ≤ t then (.int r, requestTimeoutLabel) else (.int t, timeoutLabel)
  | some r, none => (.int r, requestTimeoutLabel)
  | none, some t => (.int t, timeoutLabel)
  | none, none => (s.request, requestTimeoutLabel)

/-- The limit of a single request, to attach to it. -/
def singleLimit (s : TimeoutSettings) (request timeout : Option Int) : TimeLimit :=
  let (ms, label) := s.single request timeout
  ⟨ms, .null, some label⟩

/-- The limit of a method of several requests, where a value is given for the call or
another one is in effect. -/
def overallOr (default : Value) (general timeout : Option Int) : Value :=
  match timeout.or general with
  | some ms => .int ms
  | none => default

/-- The limit of a method of several requests. -/
def overall (s : TimeoutSettings) (general timeout : Option Int) : Value :=
  overallOr s.general general timeout

/-- Whether two pairs of limits are the same. -/
def sameAs (s t : TimeoutSettings) : Bool :=
  s.request.equal true t.request && s.general.equal true t.general

end TimeoutSettings

end AqlClient
