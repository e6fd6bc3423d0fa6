import AqlClient.Backend
import AqlClient.Proofs.Doubles

/-!
# Failed exchanges

The errors that the library of a backend may raise for an exchange form a hierarchy of classes
(`Backend.classes`), all of them below one class (`Backend.Raises`) and the timeouts below another
one (`Backend.TimesOut`). What an error says about the exchange is decided by its name, and
`Backend.causeOf_cases` compares the two: a timeout is taken for one, and every other error of the
hierarchy for a broken exchange, but for three errors of an attaching library that lie beside the
branches that are looked at (`Backend.escaping`), and pass through as they are.

So a failed exchange ends in a failure of the transport, which is a timeout just if the error is one
(`Backend.Translates`), and the two modes of an attaching backend do the same. An exchange takes
place whenever the limit can be given in seconds, and that holds for all integers but the very large
ones (`TimeLimit.seconds_ok`).
-/

namespace AqlClient

/-! ### Classes of errors -/

/-- **A class of errors that is another one or lies below it,** in a hierarchy that is given by the
classes with those right above them. -/
inductive Descends (classes : List (String × String)) (top : String) : String → Prop
  | top : Descends classes top top
  | under {name parent : String} (h : (name, parent) ∈ classes)
      (hparent : Descends classes top parent) : Descends classes top name

namespace Descends

variable {classes : List (String × String)} {top name : String} {names : List String}

/-- Names that contain all that lies right below one of them contain all that lies below. -/
theorem mem_of_closed (htop : top ∈ names)
    (hclosed : ∀ c ∈ classes, c.2 ∈ names → c.1 ∈ names) (h : Descends classes top name) :
    name ∈ names := by
  induction h with
  | top => exact htop
  | under h _ ih => exact hclosed _ h ih

theorem mem (h : Descends classes top name) : name ∈ top :: classes.map Prod.fst := by
  cases h with
  | top => exact List.mem_cons_self
  | under h => exact List.mem_cons_of_mem _ (List.mem_map_of_mem h)

theorem child (h : (name, top) ∈ classes) : Descends classes top name := .under h .top

end Descends

namespace Backend

/-- The errors of an attaching library. -/
def attachingClasses : List (String × String) :=
  [("TransportError", "RequestError"), ("DecodingError", "RequestError"),
    ("TooManyRedirects", "RequestError"), ("TimeoutException", "TransportError"),
    ("NetworkError", "TransportError"), ("ProtocolError", "TransportError"),
    ("ProxyError", "TransportError"), ("UnsupportedProtocol", "TransportError"),
    ("ConnectTimeout", "TimeoutException"), ("ReadTimeout", "TimeoutException"),
    ("WriteTimeout", "TimeoutException"), ("PoolTimeout", "TimeoutException"),
    ("ConnectError", "NetworkError"), ("ReadError", "NetworkError"),
    ("WriteError", "NetworkError"), ("CloseError", "NetworkError"),
    ("LocalProtocolError", "ProtocolError"), ("RemoteProtocolError", "ProtocolError")]

/-- The errors of the other library. One of them lies below two others. -/
def detachedClasses : List (String × String) :=
  [("InvalidJSONError", "RequestException"), ("JSONDecodeError", "InvalidJSONError"),
    ("HTTPError", "RequestException"), ("ConnectionError", "RequestException"),
    ("ProxyError", "ConnectionError"), ("SSLError", "ConnectionError"),
    ("Timeout", "RequestException"), ("ConnectTimeout", "ConnectionError"),
    ("ConnectTimeout", "Timeout"), ("ReadTimeout", "Timeout"),
    ("URLRequired", "RequestException"), ("TooManyRedirects", "RequestException"),
    ("MissingSchema", "RequestException"), ("InvalidSchema", "RequestException"),
    ("InvalidURL", "RequestException"), ("InvalidProxyURL", "InvalidURL"),
    ("InvalidHeader", "RequestException"), ("ChunkedEncodingError", "RequestException"),
    ("ContentDecodingError", "RequestException"), ("StreamConsumedError", "RequestException"),
    ("RetryError", "RequestException"), ("UnrewindableBodyError", "RequestException")]

/-- The hierarchy of the errors of a backend's library. -/
def classes : Backend → List (String × String)
  | .attaching _ => attachingClasses
  | .detached => detachedClasses

/-- The class above all errors of an exchange. -/
def topClass : Backend → String
  | .attaching _ => "RequestError"
  | .detached => "RequestException"

/-- The class above all timeouts. -/
def timeoutClass : Backend → String
  | .attaching _ => "TimeoutException"
  | .detached => "Timeout"

/-- An error that the library raises for an exchange. -/
def Raises (b : Backend) (name : String) : Prop := Descends b.classes b.topClass name

/-- An error that is a timeout. -/
def TimesOut (b : Backend) (name : String) : Prop := Descends b.classes b.timeoutClass name

/-- The errors of an exchange that are not looked at, and pass through as they are. -/
def escaping : Backend → List String
  | .attaching _ => ["RequestError", "DecodingError", "TooManyRedirects"]
  | .detached => []

/-- The timeouts, by their names. -/
def timeouts : Backend → List String
  | .attaching _ =>
    ["TimeoutException", "ConnectTimeout", "ReadTimeout", "WriteTimeout", "PoolTimeout"]
  | .detached => ["Timeout", "ConnectTimeout", "ReadTimeout"]

variable {b : Backend} {name : String}

theorem timesOut_iff : b.TimesOut name ↔ name ∈ b.timeouts := by
  have hclosed : b.timeoutClass ∈ b.timeouts ∧
      ∀ c ∈ b.classes, c.2 ∈ b.timeouts → c.1 ∈ b.timeouts := by
    cases b with
    | attaching mode => cases mode <;> decide +kernel
    | detached => decide +kernel
  have hchild : ∀ n ∈ b.timeouts, n = b.timeoutClass ∨ (n, b.timeoutClass) ∈ b.classes := by
    cases b with
    | attaching mode => cases mode <;> decide +kernel
    | detached => decide +kernel
  constructor
  · exact Descends.mem_of_closed hclosed.1 hclosed.2
  · -- all timeouts but the class itself lie right below it
    intro hmem
    obtain rfl | hbelow := hchild name hmem
    · exact .top
    · exact .child hbelow

/-! ### What an error is taken for -/

/-- The names of the errors, looked at one by one. -/
theorem looked_at (b : Backend) : ∀ n ∈ b.topClass :: b.classes.map Prod.fst,
    (timeoutPart? n).isSome = decide (n ∈ b.timeouts) ∧
      b.concernsExchange n = decide (n ∉ b.escaping) ∧ (n ∈ b.timeouts → n ∉ b.escaping) := by
  cases b with
  | attaching mode => cases mode <;> decide +kernel
  | detached => decide +kernel

/-- **What an error of an exchange is taken for:** a timeout is taken for one, and everything else for
a broken exchange, unless it escapes. -/
theorem causeOf_cases (h : b.Raises name) :
    (b.TimesOut name ∧ name ∉ b.escaping ∧ ∃ part, b.causeOf name = .timeout part) ∨
      (¬ b.TimesOut name ∧ name ∉ b.escaping ∧ b.causeOf name = .broken name) ∨
      (¬ b.TimesOut name ∧ name ∈ b.escaping ∧ b.causeOf name = .foreign name) := by
  obtain ⟨htimeout, hconcerns, hapart⟩ := looked_at b name h.mem
  rw [timesOut_iff]
  unfold causeOf exchangeCause
  rw [hconcerns]
  -- the name alone decides, so that the table of the names says it all
  by_cases hmem : name ∈ b.timeouts
  · rw [decide_eq_true hmem] at htimeout
    obtain ⟨part, hpart⟩ := Option.isSome_iff_exists.1 htimeout
    rw [if_pos (decide_eq_true (hapart hmem)), hpart]
    exact .inl ⟨hmem, hapart hmem, part, rfl⟩
  · rw [decide_eq_false hmem] at htimeout
    have hpart : timeoutPart? name = none := Option.not_isSome_iff_eq_none.1 (by simp [htimeout])
    refine .inr ?_
    by_cases hescapes : name ∈ b.escaping
    · rw [if_neg (by simpa using hescapes)]
      exact .inr ⟨hmem, hescapes, rfl⟩
    · rw [if_pos (decide_eq_true hescapes), hpart]
      exact .inl ⟨hmem, hescapes, rfl⟩

end Backend

/-! ### The wording of a timeout -/

namespace TimeLimit

/-- **The value that a message names:** the one that was set by the user, or else that of the
request. Null and zero are not named. -/
def Honours (l : TimeLimit) (ms : Value) : Prop :=
  ms.truthy = true ∧ (l.nominal = ms ∨ l.nominal.truthy = false ∧ l.request = ms)

/-- The text of a timeout as a message shows it: the setting that was honoured stands behind it, if
there is any. -/
def Worded (l : TimeLimit) (text message : String) : Prop :=
  (∀ ms, l.Honours ms →
    message = text ++ " (timeout honoured: " ++ settingDescription l.label ms ++ ")") ∧
  ((∀ ms, ¬ l.Honours ms) → message = text)

theorem honoured_eq_some {l : TimeLimit} {ms : Value} :
    l.honoured = some ms ↔ l.Honours ms := by
  unfold honoured limiting Honours
  cases hnominal : l.nominal.truthy with
  | true =>
    constructor
    · rintro ⟨⟩
      exact ⟨hnominal, .inl rfl⟩
    · rintro ⟨-, rfl | ⟨habsurd, -⟩⟩
      · rfl
      · cases habsurd
  | false =>
    rw [if_neg Bool.false_ne_true, Option.none_or]
    constructor
    · intro h
      obtain ⟨hrequest, hms⟩ := Option.ite_none_right_eq_some.1 h
      obtain rfl := Option.some.inj hms
      exact ⟨hrequest, .inr ⟨rfl, rfl⟩⟩
    · rintro ⟨hms, rfl | ⟨-, rfl⟩⟩
      · rw [hnominal] at hms
        cases hms
      · exact if_pos hms

theorem worded_exchange (part : TimeoutPart) (text : String) (l : TimeLimit)
    (endpoint payload : Option String) :
    l.Worded (if text = "" then "timed out" else text)
      (Timeout.exchange part text l endpoint payload).message := by
  have htext : (if text.isEmpty then "timed out" else text) =
      if text = "" then "timed out" else text := by
    simp only [String.isEmpty_iff]
  unfold Timeout.message
  dsimp only
  rw [htext]
  constructor
  · intro ms hms
    rw [honoured_eq_some.2 hms]
  · intro hnone
    have hnot : l.honoured = .none :=
      Option.eq_none_iff_forall_ne_some.2 fun ms hms => hnone ms (honoured_eq_some.1 hms)
    rw [hnot]

/-- **Every limit that is not too large can be given in seconds.** -/
theorem seconds_ok {l : TimeLimit}
    (h : l.request = .null ∨ ∃ ms : Int, l.request = .int ms ∧ ms.natAbs < Nat.pow 2 256) :
    ∃ s, l.seconds = .ok s := by
  unfold seconds
  obtain hnull | ⟨ms, hms, hbound⟩ := h
  · rw [hnull]
    exact ⟨.none, rfl⟩
  · rw [hms]
    dsimp only [Value.numeric?]
    -- zero is no limit; anything else is divided, and refused if the quotient is infinite
    split
    · exact ⟨.none, rfl⟩
    · have hfinite : (Binary64.ofQuotient ms 1000).isFinite = true :=
        Binary64.isFinite_ofQuotient (by decide) hbound
      unfold Number.divide?
      dsimp only
      rw [Option.filter_some, if_pos hfinite]
      exact ⟨_, rfl⟩

end TimeLimit

/-! ### Carrying out an exchange -/

namespace Backend

/-- **The failure of the transport that an error turns into.** It is a timeout just if the error is
one. The text of a timeout is that of the error, with the limit that was honoured; any other failure
names the URL that was asked for, and the text of the error or its class. -/
structure Translates (b : Backend) (q : Request) (name text : String) (e : Failure) : Prop where
  transport : e.isTransport = true
  timeout : (∃ t, e = .timeout t) ↔ b.TimesOut name
  worded : b.TimesOut name → q.limit.Worded (if text = "" then "timed out" else text) e.message
  named : ¬ b.TimesOut name → e.message =
    "Could not complete request to " ++ q.url ++ ": " ++ (if text = "" then name else text)

variable {b : Backend} {q : Request} {h : Handover} {name text : String}
  {exchange : Handover → Except LibraryError (Int × Headers × List UInt8)}

theorem handover_ok {s : Option Binary64} (hs : q.limit.seconds = .ok s) :
    ∃ h, b.handover q = .ok h := by
  unfold handover
  rw [hs]
  exact ⟨_, rfl⟩

theorem execute_of_error {e : LibraryError} (hh : b.handover q = .ok h)
    (he : exchange h = .error e) : b.execute q exchange = .error (b.failure q e) := by
  unfold execute
  simp only [hh, bind, Except.bind, he]
  rfl

theorem execute_of_ok {status : Int} {headers : Headers} {body : List UInt8}
    (hh : b.handover q = .ok h) (he : exchange h = .ok (status, headers, body)) :
    b.execute q exchange = .ok (Response.ofParts status headers body) := by
  unfold execute
  simp only [hh, bind, Except.bind, he]
  rfl

theorem failure_of_timeout (b : Backend) (q : Request) (part : TimeoutPart) (text : String)
    (request : Option AttachedRequest) : ∃ endpoint payload,
      b.failure q ⟨.timeout part, text, request⟩ =
        .timeout (.exchange part text q.limit endpoint payload) := by
  cases b with
  | attaching mode => exact ⟨_, _, rfl⟩
  | detached => exact ⟨_, _, rfl⟩

theorem failure_of_broken (b : Backend) (q : Request) (name text : String)
    (request : Option AttachedRequest) : ∃ endpoint payload,
      b.failure q ⟨.broken name, text, request⟩ =
      .transport (.incomplete q.url (LibraryError.reason name text) endpoint payload) := by
  cases b with
  | attaching mode => exact ⟨_, _, rfl⟩
  | detached => exact ⟨_, _, rfl⟩

theorem failure_of_foreign (b : Backend) (q : Request) (name text : String)
    (request : Option AttachedRequest) :
    b.failure q ⟨.foreign name, text, request⟩ = .foreign name := by
  cases b with
  | attaching mode => rfl
  | detached => rfl

/-- An error that does not escape becomes a failure of the transport. -/
theorem translates_failure (hraises : b.Raises name) (hescapes : name ∉ b.escaping)
    (request : Option AttachedRequest) :
    b.Translates q name text (b.failure q ⟨b.causeOf name, text, request⟩) := by
  obtain ⟨htimeout, -, part, hcause⟩ | ⟨htimeout, -, hcause⟩ | ⟨-, habsurd, -⟩ :=
    causeOf_cases hraises
  · obtain ⟨endpoint, payload, hfailure⟩ := failure_of_timeout b q part text request
    rw [hcause, hfailure]
    exact ⟨rfl, iff_of_true ⟨_, rfl⟩ htimeout,
      fun _ => TimeLimit.worded_exchange part text q.limit endpoint payload,
      fun hnot => absurd htimeout hnot⟩
  · obtain ⟨endpoint, payload, hfailure⟩ := failure_of_broken b q name text request
    rw [hcause, hfailure]
    refine ⟨rfl, iff_of_false ?_ htimeout, fun h => absurd h htimeout, fun _ => ?_⟩
    · rintro ⟨t, ht⟩
      cases ht
    · change "Could not complete request to " ++ q.url ++ ": " ++ LibraryError.reason name text = _
      unfold LibraryError.reason
      simp only [String.isEmpty_iff]
  · exact absurd habsurd hescapes

/-- **Failed exchanges.** An exchange takes place unless the limit of the request cannot be given in
seconds, which it can if it is null or an integer that is not enormous. If the library raises an error
for it, whatever its text is, the backend fails with a failure of the transport that tells of the
error, and with the error itself if it is one that escapes. A completed exchange is returned with its
status and its body as they are. The mode of an attaching backend makes no difference. -/
theorem exchange_translated (b : Backend) (q : Request)
    (exchange : Handover → Except LibraryError (Int × Headers × List UInt8)) :
    ((q.limit.request = .null ∨
        ∃ ms : Int, q.limit.request = .int ms ∧ ms.natAbs < Nat.pow 2 256) →
      ∃ h, b.handover q = .ok h) ∧
    (∀ h, b.handover q = .ok h →
      (∀ name text request, b.Raises name →
          exchange h = .error ⟨b.causeOf name, text, request⟩ →
        (name ∈ b.escaping → b.execute q exchange = .error (.foreign name)) ∧
        (name ∉ b.escaping →
          ∃ e, b.execute q exchange = .error e ∧ b.Translates q name text e)) ∧
      (∀ status headers body, exchange h = .ok (status, headers, body) →
        ∃ r, b.execute q exchange = .ok r ∧ r.status = status ∧ r.body = body)) ∧
    (Backend.attaching .blocking).execute q exchange =
      (Backend.attaching .async).execute q exchange := by
  refine ⟨fun hlimit => ?_, fun h hh => ⟨fun name text request hraises he => ⟨?_, ?_⟩, ?_⟩, rfl⟩
  · obtain ⟨s, hs⟩ := TimeLimit.seconds_ok hlimit
    exact handover_ok hs
  · intro hescapes
    rw [execute_of_error hh he]
    obtain ⟨-, habsurd, -⟩ | ⟨-, habsurd, -⟩ | ⟨-, -, hcause⟩ := causeOf_cases hraises
    · exact absurd hescapes habsurd
    · exact absurd hescapes habsurd
    · rw [hcause, failure_of_foreign]
  · exact fun hescapes => ⟨_, execute_of_error hh he, translates_failure hraises hescapes request⟩
  · exact fun status headers body he => ⟨_, execute_of_ok hh he, rfl, rfl⟩

/-- A request with the rest of a longer limit. -/
def limitedRequest : Request where
  method := "POST"
  url := "http://h.test/_api/cursor"
  headers := []
  body := some "\x7b\"q\":1\x7d"
  params := []
  limit := ⟨.int 120, .int 500, some generalTimeoutLabel⟩

/-- The message of a timeout without a text names the longer limit. -/
theorem exchange_translated_specimen :
    ∃ e, Backend.detached.execute limitedRequest
        (fun _ => .error ⟨Backend.detached.causeOf "ReadTimeout", "", none⟩) = .error e ∧
      (∃ t, e = .timeout t) ∧
      e.message = "timed out (timeout honoured: general_method_timeout_ms = 500 ms)" := by
  obtain ⟨hlimit, hexchange, -⟩ := exchange_translated .detached limitedRequest
    (fun _ => .error ⟨Backend.detached.causeOf "ReadTimeout", "", none⟩)
  obtain ⟨h, hh⟩ := hlimit (.inr ⟨120, rfl, by decide⟩)
  have hraises : Backend.detached.Raises "ReadTimeout" :=
    .under (show ("ReadTimeout", "Timeout") ∈ detachedClasses by decide +kernel)
      (.child (by decide +kernel))
  have htimesOut : Backend.detached.TimesOut "ReadTimeout" := .child (by decide +kernel)
  obtain ⟨-, hfails⟩ := (hexchange h hh).1 "ReadTimeout" "" none hraises rfl
  obtain ⟨e, he, htranslates⟩ := hfails List.not_mem_nil
  refine ⟨e, he, htranslates.timeout.2 htimesOut, ?_⟩
  rw [(htranslates.worded htimesOut).1 (.int 500) ⟨rfl, .inl rfl⟩]
  decide +kernel

/-! ### Errors that escape -/

/-- **An answer that cannot be decoded is no failure of the transport,** though the library raises
its error for the exchange. -/
theorem execute_undecodable :
    (Backend.attaching .blocking).Raises "DecodingError" ∧
      (Backend.attaching .blocking).execute limitedRequest
        (fun _ => .error ⟨(Backend.attaching .blocking).causeOf "DecodingError", "bad gzip",
          some ⟨limitedRequest.url, "\x7b\"q\":1\x7d"⟩⟩) = .error (.foreign "DecodingError") ∧
      (Failure.foreign "DecodingError").isTransport = false := by
  obtain ⟨s, hs⟩ := TimeLimit.seconds_ok (l := limitedRequest.limit) (.inr ⟨120, rfl, by decide⟩)
  obtain ⟨h, hh⟩ := handover_ok (b := .attaching .blocking) hs
  refine ⟨.child (by decide +kernel), ?_, rfl⟩
  rw [execute_of_error hh rfl]
  have hcause : (Backend.attaching .blocking).causeOf "DecodingError" = .foreign "DecodingError" := by
    rfl
  rw [hcause, failure_of_foreign]

end Backend

end AqlClient
