import AqlClient.Proofs.Program.Candor
import AqlClient.Proofs.Timeliness

/-!
# The settings that timeouts name

A limit carries the name of the setting that it came from and the value that was set, however little
of that is left, and the message of a timeout quotes both. What a method of several requests sends
under its deadline is under a limit that names the setting for the method or the one for a single
request, and so does what it fails with (`Request.Names`, `Timeout.Names`). Which one that is
depends on the time that has passed (`Deadline.Names.remaining`), and so on whatever has come back
before. No deadline has a part in the release of a cursor (`TimeLimit.Plain`).

This is shown of the methods that read a cursor to its end and of making a session. A query that is
read as a whole behaves so until it has been submitted. What is left of its deadline by then is handed
on as a limit in its own right, so that it is what the list of the results names
(`Database.QueryNames`): a value that nobody has set, unless submitting the query took no time
(`Database.query_renamed`).
-/

namespace AqlClient

variable {α β : Type} {c : Cursor α} {overall cap : Int} {s : Scene}

/-! ### Names -/

/-- **A limit names the setting that it came from** and its value: the one for the method as a whole,
or the one for a single request. -/
inductive TimeLimit.Names (overall cap : Int) (l : TimeLimit) : Prop
  | general (label : l.label = some generalTimeoutLabel) (nominal : l.nominal = .int overall)
  | single (label : l.label = some requestTimeoutLabel) (nominal : l.nominal = .int cap)

/-- A limit that no deadline has a part in. -/
structure TimeLimit.Plain (l : TimeLimit) : Prop where
  label : l.label ≠ some generalTimeoutLabel
  nominal : l.nominal = .null

/-- **A request names the setting that its limit came from,** unless it is the release of a cursor,
which no deadline has a part in. -/
def Request.Names (overall cap : Int) (q : Request) : Prop :=
  if q.method = "DELETE" then q.limit.Plain else q.limit.Names overall cap

/-- The message of a timeout quotes a setting with its value. -/
def Timeout.Quotes (setting : String) (ms : Int) (t : Timeout) : Prop :=
  ∃ before after, t.message = before ++ (setting ++ " = " ++ Numeral.ofInt ms ++ " ms") ++ after

/-- **A timeout names the setting that was honoured.** -/
inductive Timeout.Names (overall cap : Int) : Timeout → Prop
  | deadline {label : Option String} {value : Value}
      (quotes : (Timeout.deadline label value).Quotes generalTimeoutLabel overall) :
      Names overall cap (.deadline label value)
  | exchange {part : TimeoutPart} {text : String} {limit : TimeLimit}
      {endpoint payload : Option String} (names : limit.Names overall cap ∨ limit.Plain)
      (quotes : limit.label = some generalTimeoutLabel →
        (Timeout.exchange part text limit endpoint payload).Quotes generalTimeoutLabel overall) :
      Names overall cap (.exchange part text limit endpoint payload)

theorem requestLabel_ne : some requestTimeoutLabel ≠ some generalTimeoutLabel := by decide

theorem quotes_deadline (ms : Int) :
    (Timeout.deadline (some generalTimeoutLabel) (.int ms)).Quotes generalTimeoutLabel ms :=
  ⟨"Operation timed out (timeout honoured: ", ").", rfl⟩

/-- A timeout of an exchange quotes the value that its limit names. -/
theorem quotes_exchange {part : TimeoutPart} {text : String} {limit : TimeLimit}
    {endpoint payload : Option String} {ms : Int} (hpos : 0 < ms)
    (hlabel : limit.label = some generalTimeoutLabel) (hnominal : limit.nominal = .int ms) :
    (Timeout.exchange part text limit endpoint payload).Quotes generalTimeoutLabel ms := by
  have hhonoured : limit.honoured = some (.int ms) := by
    unfold TimeLimit.honoured
    rw [hnominal, (Value.Limits.int (Int.le_of_lt hpos)).limiting_pos hpos]
    rfl
  refine ⟨(if text.isEmpty then "timed out" else text) ++ " (timeout honoured: ", ")", ?_⟩
  unfold Timeout.message
  simp only [hhonoured, hlabel]
  rfl

/-- What a request is under is what the timeout of its exchange names. -/
theorem Timeout.names_exchange {limit : TimeLimit} (hpos : 0 < overall)
    (h : limit.Names overall cap ∨ limit.Plain) (part : TimeoutPart) (text : String)
    (endpoint payload : Option String) :
    (Timeout.exchange part text limit endpoint payload).Names overall cap := by
  refine .exchange h fun hlabel => ?_
  obtain hnames | hplain := h
  · cases hnames with
    | general _ nominal => exact quotes_exchange hpos hlabel nominal
    | single label _ => exact absurd (label.symm.trans hlabel) requestLabel_ne
  · exact absurd hlabel hplain.label

namespace TimeLimit

/-- A limit that names a value is attached as it is. -/
theorem Names.attached {l : TimeLimit} (h : l.Names overall cap) : l.attached.Names overall cap := by
  have hset : l.isSet = true := by
    cases h with
    | general _ nominal => simp [isSet, nominal, Value.kind]
    | single _ nominal => simp [isSet, nominal, Value.kind]
  unfold TimeLimit.attached
  rw [if_pos hset]
  exact h

theorem Plain.attached {l : TimeLimit} (h : l.Plain) : l.attached.Plain := by
  unfold TimeLimit.attached
  split
  · exact h
  · exact ⟨nofun, rfl⟩

end TimeLimit

/-! ### Deadlines -/

/-- **A value sets a number of milliseconds.** Null stands for zero. -/
def Value.Sets (v : Value) (ms : Int) : Prop := v = .int ms ∨ v = .null ∧ ms = 0

/-- Only zero limits nothing. -/
theorem Value.Sets.limiting {v : Value} {ms : Int} (h : v.Sets ms) :
    limiting v = if ms = 0 then none else some (.int ms) := by
  obtain rfl | ⟨rfl, rfl⟩ := h
  · unfold AqlClient.limiting
    by_cases hzero : ms = 0
    · subst hzero
      rfl
    · rw [if_neg hzero]
      exact if_pos (bne_iff_ne.2 hzero)
  · rfl

namespace Deadline

/-- **A deadline names the setting** for the method as a whole. -/
structure Names (overall : Int) (d : Deadline) : Prop where
  value : d.overall = some (.int overall)
  label : d.label = some generalTimeoutLabel

variable {d : Deadline} {v capValue : Value} {started now : Int}

theorem names_starting (h : v.Limits overall) (hpos : 0 < overall)
    (hstart : starting started v (some generalTimeoutLabel) = .ok d) :
    d.Names overall ∧ d.started = started := by
  unfold starting at hstart
  rw [h.limiting_pos hpos] at hstart
  cases hstart
  exact ⟨⟨rfl, rfl⟩, rfl⟩

/-- Whatever begins with a deadline goes on with one that names the setting. -/
theorem reports_starting {may : Request → Prop} {tells : Timeout → Prop} {k : Deadline → Program β}
    (h : v.Limits overall) (hpos : 0 < overall)
    (hk : ∀ d : Deadline, d.Names overall → (k d).Reports may tells s) :
    (Program.now >>= fun time => Program.ofExcept (starting time v (some generalTimeoutLabel)) >>=
      k).Reports may tells s := by
  obtain ⟨d, hd⟩ := starting_ok h s.now (some generalTimeoutLabel)
  refine .byClock (fun d' hd' => ?_) fun e he => nomatch hd.symm.trans he
  exact hk d' (names_starting h hpos hd').1

namespace Names

variable (h : d.Names overall)

include h

theorem passesAt : d.passesAt = some (.int (d.started + overall)) := by
  unfold Deadline.passesAt
  rw [h.value]
  rfl

/-- What is said once the deadline has passed. -/
theorem overdue_tells (cap : Int) : d.overdue.Tells (Timeout.Names overall cap) := by
  unfold overdue
  rw [h.value, h.label]
  rintro _ ⟨⟩
  exact .deadline (quotes_deadline overall)

theorem limitOf (left : Number) (cap : Int) : (d.limitOf left).Names overall cap := by
  refine .general h.label ?_
  show d.overall.getD .null = _
  rw [h.value]
  rfl

/-- **What a deadline grants names the setting,** and so does what it fails with. -/
theorem remaining (hcap : capValue.Sets cap) (now : Int) :
    (∃ l, d.remaining now capValue (some requestTimeoutLabel) = .ok l ∧ l.Names overall cap) ∨
      d.remaining now capValue (some requestTimeoutLabel) = .error d.overdue := by
  unfold Deadline.remaining
  rw [h.passesAt, hcap.limiting]
  by_cases hzero : cap = 0
  · rw [if_pos hzero]
    dsimp only
    split
    · exact .inl ⟨_, rfl, h.limitOf _ cap⟩
    · exact .inr rfl
  · rw [if_neg hzero]
    dsimp only
    split
    · -- of the two limits the smaller one is named
      refine .inl ⟨_, rfl, ?_⟩
      split
      · exact h.limitOf _ cap
      · exact .single rfl rfl
    · exact .inr rfl

/-- **What is asked for under a deadline** is asked for under a limit that names a setting. -/
theorem reports_granted {k : TimeLimit → Program β} (hcap : capValue.Sets cap)
    (hk : ∀ l, l.Names overall cap →
      (k l).Reports (Request.Names overall cap) (Timeout.Names overall cap) s) :
    (Program.now >>= fun time => Program.ofExcept (d.remaining time capValue
      (some requestTimeoutLabel)) >>= k).Reports (Request.Names overall cap)
        (Timeout.Names overall cap) s := by
  obtain ⟨l, hok, hnames⟩ | hlate := h.remaining hcap s.now
  · refine .byClock (fun l' hl' => ?_) fun e he => nomatch hok.symm.trans he
    cases hok.symm.trans hl'
    exact hk l hnames
  · refine .byClock (fun l hl => nomatch hlate.symm.trans hl) fun e he => ?_
    cases hlate.symm.trans he
    exact h.overdue_tells cap

/-- What is left of a deadline that has not passed yet. -/
theorem rest (hnow : now < d.started + overall) :
    ∃ l, d.remaining now .null none = .ok l ∧ l.request = .int (d.started + overall - now) := by
  have hbelow : (Number.int now).below (.int (d.started + overall)) = true := decide_eq_true hnow
  unfold Deadline.remaining
  rw [h.passesAt, Value.Limits.null.limiting_zero]
  dsimp only
  rw [if_pos hbelow]
  exact ⟨_, rfl, rfl⟩

end Names

end Deadline

/-! ### Calls -/

/-- What is sent under a limit that names a setting names it, unless it is a release. -/
theorem Request.names_of_limit {g : Gateway} {call : Call} (hmethod : call.method ≠ "DELETE")
    (h : call.limit.Names overall cap) (body : Option String) :
    (g.requestFor call body).Names overall cap := by
  have hother : ¬ (g.requestFor call body).method = "DELETE" := hmethod
  unfold Names
  rw [if_neg hother]
  exact h.attached

theorem Request.Names.limit {q : Request} (h : q.Names overall cap) :
    q.limit.Names overall cap ∨ q.limit.Plain := by
  unfold Names at h
  split at h
  · exact .inr h
  · exact .inl h

/-- **A call fails with the timeout that its request names,** if with any. -/
theorem Gateway.reports_call {g : Gateway} {mode : Mode} {call : Call} (hpos : 0 < overall)
    (h : ∀ body, (g.requestFor call body).Names overall cap) :
    (g.request mode call).Reports (Request.Names overall cap) (Timeout.Names overall cap) s :=
  reports_request h fun part text endpoint payload =>
    Timeout.names_exchange hpos (h none).limit part text endpoint payload

namespace QueryService

variable {service : QueryService} {limit : TimeLimit} {may : Request → Prop}
  {tells : Timeout → Prop}

theorem reports_readBatch {call : Call}
    (h : ∀ s, (service.gateway.request service.mode call).Reports may tells s) (text : String) :
    (do let envelope ← service.gateway.request service.mode call
        service.report text
        Program.ofExcept (Batch.ofEnvelope envelope)).Reports may tells s := by
  refine (h s).bind fun envelope s => ?_
  exact (wp_report_bind _ _ _).2
    (Program.Reports.ofExcept fun e he => (Batch.readable_ofEnvelope envelope).tellsOf he)

theorem reports_submit {q : Query} (hpos : 0 < overall) (h : limit.Names overall cap) :
    (service.submit q limit).Reports (Request.Names overall cap) (Timeout.Names overall cap) s :=
  (wp_report_bind _ _ _).2 (reports_readBatch (fun _ => Gateway.reports_call hpos
    (Request.names_of_limit (show "POST" ≠ "DELETE" by decide) h)) _)

theorem reports_fetch {id : String} (hpos : 0 < overall) (h : limit.Names overall cap) :
    (service.fetch id limit).Reports (Request.Names overall cap) (Timeout.Names overall cap) s :=
  (wp_report_bind _ _ _).2 (reports_readBatch (fun _ => Gateway.reports_call hpos
    (Request.names_of_limit (show "PUT" ≠ "DELETE" by decide) h)) _)

theorem reports_release {id : String} (hpos : 0 < overall) (h : limit.Plain) :
    (service.release id limit).Reports (Request.Names overall cap) (Timeout.Names overall cap)
      s := by
  have hrequest : ∀ body,
      (service.gateway.requestFor (cursorCall "DELETE" id limit) body).Names overall cap :=
    fun _ => h.attached
  refine (wp_report_bind _ _ _).2 ((Gateway.reports_call hpos hrequest).attempt_bind ?_ ?_)
  · exact fun _ _ => .update _
  · intro e s he
    cases e with
    | server e =>
      show (if e.saysCursorGone = true then _ else _ : Program Unit).Reports _ _ s
      split
      · exact .update _
      · exact .error he
    | _ => exact .error he

end QueryService

/-! ### Reading a cursor to its end -/

namespace Cursor

/-- Closing a cursor has no part in a deadline. -/
theorem reports_close (hpos : 0 < overall) :
    c.close.Reports (Request.Names overall cap) (Timeout.Names overall cap) s := by
  unfold Program.Reports close
  rw [wp_look, wp_update]
  split
  · exact Program.kept_ok trivial
  · exact QueryService.reports_release hpos ⟨requestLabel_ne, rfl⟩

/-- A batch arrives without a timeout. -/
theorem reports_ingest {may : Request → Prop} {tells : Timeout → Prop} (b : Batch) :
    (c.ingest b).Reports may tells s := by
  refine Program.Reports.bind (.update _) fun _ s => .bind ?_ fun _ _ => .update _
  refine Program.wp_mono (wp_reportWarnings logless_true b trivial) fun r _ _ h => ⟨trivial, ?_⟩
  rintro e rfl _ rfl
  cases Batch.eq_wrongType_of_warned h.1.symm

/-- **A fetch under a deadline** names a setting, whether it is made or comes too late. -/
theorem reports_fetchNext (hpos : 0 < overall) {d : Deadline} (hd : d.Names overall)
    (hcap : c.requestLimit.Sets cap) :
    (c.fetchNext (some d)).Reports (Request.Names overall cap) (Timeout.Names overall cap) s := by
  have hbatch : ∀ s, (c.fetchBatch (some d)).Reports (Request.Names overall cap)
      (Timeout.Names overall cap) s := by
    refine fun s => Program.Reports.bind (p := c.liveId) ?_ fun id s => ?_
    · refine .bind (.view _) fun state s => ?_
      split
      · exact .ok _
      · exact .error (.of_ne nofun)
    · exact hd.reports_granted hcap fun l hl => QueryService.reports_fetch hpos hl
  have halone : (c.fetchAlone (some d)).Reports (Request.Names overall cap)
      (Timeout.Names overall cap) s := by
    refine (wp_fetchAlone _ _).2 ?_
    split
    · exact Program.kept_error trivial (.of_ne nofun)
    · exact Program.wp_mono (hbatch _) fun _ _ _ h => h
  exact wp_fetchNext_of ((hbatch s).bind fun b _ => reports_ingest b)
    (halone.bind fun b _ => reports_ingest b)

/-! The rest holds of all kinds of requests and timeouts of which those of the cursor are some. -/

section Methods

variable {may : Request → Prop} {tells : Timeout → Prop} (hpos : 0 < overall)
  (hmay : ∀ q, q.Names overall cap → may q) (htells : ∀ t, t.Names overall cap → tells t)

include hmay htells hpos

theorem supplied_names {d : Deadline} (hd : d.Names overall) (hcap : c.requestLimit.Sets cap) :
    c.Supplied (.candid may) (some d) (fun _ _ => True) fun e _ _ => True ∧ e.Tells tells :=
  fun _ _ _ _ => Program.wp_kept_iff_ends.1 ((reports_fetchNext hpos hd hcap).mono hmay htells)

omit hmay htells hpos in
/-- An item that cannot be converted makes no timeout. -/
theorem stays_handOut_reports (number : Nat) :
    (c.handOut number).Stays (.candid may) (fun _ _ => True) fun e _ _ => True ∧ e.Tells tells := by
  intro w s _
  rw [wp_handOut]
  split
  case h_1 => trivial
  case h_2 e he =>
    obtain ⟨index, item, fault, rfl⟩ := Mapper.fault_of_convert he
    refine ⟨trivial, .of_ne fun t => ?_⟩
    cases fault with
    | rejected _ => nofun
    | aborted _ => nofun

/-- **A method that closes the cursor behind itself** names the setting of its deadline. -/
theorem reports_underDeadline {limit : Value} (hlimit : limit.Limits overall)
    {body : Deadline → Program β}
    (hbody : ∀ d, d.Names overall → (body d).Stays (.candid may) (fun _ _ => True)
      fun e _ _ => True ∧ e.Tells tells) :
    (c.underDeadline limit fun d => c.closing (body d)).Reports may tells s := by
  have hclose : c.close.Upholds (.candid may) (fun _ _ => True) (Failure.Tells tells) :=
    Program.reports_iff_upholds.1 fun _ => (reports_close hpos).mono hmay htells
  unfold underDeadline Program.Reports
  rw [Program.wp_bind, wp_deadline]
  split
  · rw [Program.chain_error]
    exact Program.kept_error trivial (.of_ne nofun)
  · obtain ⟨d, hd⟩ := Deadline.starting_ok hlimit s.now (some generalTimeoutLabel)
    have hnames := (Deadline.names_starting hlimit hpos hd).1
    rw [hd]
    exact wp_kept_closing logless_true hclose
      (Program.upholds_iff_stays.2 (hbody d hnames) trivial)

theorem reports_toListWithin {limit : Value} (hlimit : limit.Limits overall)
    (hcap : c.requestLimit.Sets cap) : (c.toListWithin limit).Reports may tells s := by
  rw [toListWithin_eq]
  refine reports_underDeadline hpos hmay htells hlimit fun d hd => ?_
  rw [remainder_eq]
  exact (supplied_names hpos hmay htells hd hcap).remainderBy
    (empties_drain fun number => stays_handOut_reports number)

theorem reports_forEach {visit : α → Program Bool} {general timeout : Option Int}
    (hlimit : (c.overall general timeout).Limits overall) (hcap : c.requestLimit.Sets cap)
    (hvisit : ∀ a s', (visit a).Reports may tells s') :
    (c.forEach visit general timeout).Reports may tells s := by
  rw [forEach_eq]
  refine reports_underDeadline hpos hmay htells hlimit fun d hd => stays_visitAll ?_ fun a => ?_
  · exact Program.stays_bind (supplied_names hpos hmay htells hd hcap).fill fun _ =>
      Program.stays_bind (stays_handOut_reports 1) fun items => Program.stays_pure items.head?
  · exact Program.upholds_iff_stays.1 (Program.reports_iff_upholds.1 (hvisit a))

end Methods

end Cursor

/-! ### Queries -/

/-- **A query names the setting until it has been submitted.** The list of its results is read under
a limit of its own, which is what is left of the deadline by then: from there on that number is named
in place of the one that was set. -/
structure Database.QueryNames (d : Database) (q : Query) (mapper : Mapper α) (s : Scene)
    (general request timeout : Option Int) (overall cap : Int) : Prop where
  query : d.query q mapper general request timeout =
    d.submitted q mapper general request timeout >>= fun made =>
      made.1.closing (made.2.forRest made.1.toListWithin)
  submission : (d.submitted q mapper general request timeout).Reports (Request.Names overall cap)
    (Timeout.Names overall cap) s
  list : ∀ (made : Cursor α × Deadline) (s₁ : Scene),
    (d.submitted q mapper general request timeout).ComesTo s (.done (.ok made)) s₁ →
      s₁.now < s.now + overall → (made.1.closing (made.2.forRest made.1.toListWithin)).Reports
        (Request.Names (s.now + overall - s₁.now) cap) (Timeout.Names (s.now + overall - s₁.now) cap)
          s₁
  /-- With nothing left, no list is read. -/
  late : ∀ (made : Cursor α × Deadline) (s₁ : Scene),
    (d.submitted q mapper general request timeout).ComesTo s (.done (.ok made)) s₁ →
      s.now + overall ≤ s₁.now → (made.1.closing (made.2.forRest made.1.toListWithin)).Reports
        (Request.Names overall cap) (Timeout.Names overall cap) s₁

namespace Database

variable {d : Database} {q : Query} {mapper : Mapper α} {general request timeout : Option Int}

section Submitting

variable (hpos : 0 < overall)
  (hlimit : (d.session.options.timeouts.overall general timeout).Limits overall)
  (hcap : ((request.map Value.int).getD d.session.options.timeouts.request).Sets cap)

include hpos hlimit hcap

theorem reports_submitted : (d.submitted q mapper general request timeout).Reports
    (Request.Names overall cap) (Timeout.Names overall cap) s := by
  refine Deadline.reports_starting hlimit hpos fun deadline hdeadline => ?_
  refine hdeadline.reports_granted hcap fun l hl => ?_
  refine (QueryService.reports_submit hpos hl).bind fun first s => ?_
  refine Program.Reports.bind ?_ fun c s => .ok (c, deadline)
  exact .bind (.view _) fun ref s => .bind (.update _) fun _ s =>
    .bind (Cursor.reports_ingest first) fun _ s => .ok _

theorem queryNames : d.QueryNames q mapper s general request timeout overall cap where
  query := query_eq d q mapper general request timeout
  submission := reports_submitted hpos hlimit hcap
  list made s₁ hdone hnow := by
    obtain ⟨-, hrequest, hdeadline⟩ := begun_of_comesTo hdone
    obtain ⟨hnames, hstarted⟩ := Deadline.names_starting hlimit hpos hdeadline
    rw [← hstarted] at hnow ⊢
    rw [← hrequest] at hcap
    have hleft : 0 < made.2.started + overall - s₁.now := by omega
    obtain ⟨rest, hrest, hvalue⟩ := hnames.rest hnow
    refine Cursor.wp_kept_closing logless_true
      (Program.reports_iff_upholds.1 fun _ => Cursor.reports_close hleft) ?_
    refine Program.Reports.byClock (fun rest' hok => ?_) fun e he => nomatch hrest.symm.trans he
    cases hrest.symm.trans hok
    -- the list knows nothing but the number that is left
    refine Cursor.reports_toListWithin hleft (fun _ h => h) (fun _ h => h) ?_ hcap
    rw [hvalue, (Value.Limits.int (Int.le_of_lt hleft)).limiting_pos hleft]
    exact .int (Int.le_of_lt hleft)
  late made s₁ hdone hlate := by
    have hdeadline := (begun_of_comesTo hdone).deadline
    have hnames := (Deadline.names_starting hlimit hpos hdeadline).1
    have hoverdue := (Deadline.until_starting hlimit hdeadline).overdue hpos hlate .null none
    -- the failure comes from the deadline of the query itself, and the cursor is closed behind it
    refine Cursor.wp_kept_closing logless_true
      (Program.reports_iff_upholds.1 fun _ => Cursor.reports_close hpos) ?_
    refine Program.Reports.byClock (fun rest hok => nomatch hoverdue.symm.trans hok) fun e he => ?_
    cases hoverdue.symm.trans he
    exact hnames.overdue_tells cap

end Submitting

end Database

/-! ### Making a session -/

namespace Client

variable {mode : Mode} {address : String} {deadline : Deadline} {options : Options}

theorem readable_tokenOf (envelope : Entries) : Readable (tokenOf envelope) := by
  refine (Entries.readable_required _ _ _ _).bind fun token _ => ?_
  split
  · exact .malformed _
  · exact .ok token

section Establishing

variable (hpos : 0 < overall) (hdeadline : deadline.Names overall)
  (hcap : options.timeouts.request.Sets cap)

include hpos hdeadline hcap

theorem reports_settledCredentials : (settledCredentials mode address options deadline).Reports
    (Request.Names overall cap) (Timeout.Names overall cap) s := by
  unfold settledCredentials
  split
  · refine hdeadline.reports_granted hcap fun l hl => .bind (.update _) fun _ s => .bind ?_ ?_
    · exact Gateway.reports_call hpos (Request.names_of_limit (show "POST" ≠ "DELETE" by decide) hl)
    · intro envelope s
      refine .bind (.update _) fun _ s => .bind (.ofExcept fun e he => ?_) fun token s => .ok _
      exact (readable_tokenOf envelope).tellsOf he
  · exact .ok _

theorem reports_establish {ownsTransport : Bool} :
    (establish mode address options ownsTransport deadline).Reports (Request.Names overall cap)
      (Timeout.Names overall cap) s := by
  refine (reports_settledCredentials hpos hdeadline hcap).bind fun credentials s => ?_
  refine Program.Reports.bind (.bind (.view _) fun _ _ => .bind (.update _) fun _ _ => .ok _)
    fun session s => .bind (.update _) fun _ s => ?_
  refine hdeadline.reports_granted hcap fun l hl => .bind ?_ fun envelope s => .bind ?_ ?_
  · exact Gateway.reports_call hpos (Request.names_of_limit (show "GET" ≠ "DELETE" by decide) hl)
  · exact .ofExcept fun e he => (ServerVersion.readable_ofValue envelope).tellsOf he
  · exact fun version s => .ok (session, version)

end Establishing

theorem reports_connect {client : Client} {credentials : Option Credentials}
    {options : Option OptionsOverride} {ownsTransport : Bool} (hpos : 0 < overall)
    (hlimit : (client.sessionOptions options credentials).timeouts.general.Limits overall)
    (hcap : (client.sessionOptions options credentials).timeouts.request.Sets cap) :
    (client.connect mode address credentials options ownsTransport).Reports
      (Request.Names overall cap) (Timeout.Names overall cap) s := by
  refine Deadline.reports_starting hlimit hpos fun deadline hdeadline => ?_
  refine (reports_establish hpos hdeadline hcap).attempt_bind ?_ fun e s he => ?_
  · exact fun made s => .bind (.update _) fun _ s => .ok made.1
  · cases ownsTransport with
    | true => exact .bind (.update _) fun _ s => .error he
    | false => exact .error he

end Client

/-! ### Timeouts name settings -/

/-- **Timeouts name the settings that users have set:** those of the methods that read a cursor to
its end, and of the one that makes a session. The functions that are called on items have requests
and timeouts of their own. A query that is read as a whole names, from its list on, what is left. -/
theorem Scene.timeouts_named (s : Scene) {overall cap : Int} (hpos : 0 < overall) :
    (∀ {α : Type} (c : Cursor α) (general timeout : Option Int),
      (c.overall general timeout).Limits overall → c.requestLimit.Sets cap →
        (c.toList general timeout).Reports (Request.Names overall cap) (Timeout.Names overall cap)
          s ∧
        ∀ (visit : α → Program Bool) (may : Request → Prop) (tells : Timeout → Prop),
          (∀ a s', (visit a).Reports may tells s') → (c.forEach visit general timeout).Reports
            (fun q => may q ∨ q.Names overall cap) (fun t => tells t ∨ t.Names overall cap) s) ∧
    (∀ {α : Type} (d : Database) (q : Query) (mapper : Mapper α)
      (general request timeout : Option Int),
      (d.session.options.timeouts.overall general timeout).Limits overall →
        ((request.map Value.int).getD d.session.options.timeouts.request).Sets cap →
          d.QueryNames q mapper s general request timeout overall cap) ∧
    ∀ (client : Client) (mode : Mode) (address : String) (credentials : Option Credentials)
      (options : Option OptionsOverride) (ownsTransport : Bool),
      (client.sessionOptions options credentials).timeouts.general.Limits overall →
        (client.sessionOptions options credentials).timeouts.request.Sets cap →
          (client.connect mode address credentials options ownsTransport).Reports
            (Request.Names overall cap) (Timeout.Names overall cap) s := by
  refine ⟨fun c general timeout hlimit hcap => ⟨?_, fun visit may tells hvisit => ?_⟩, ?_, ?_⟩
  · exact Cursor.reports_toListWithin hpos (fun _ h => h) (fun _ h => h) hlimit hcap
  · refine Cursor.reports_forEach hpos (fun _ => .inr) (fun _ => .inr) hlimit hcap fun a s' => ?_
    exact (hvisit a s').mono (fun _ => .inl) fun _ => .inl
  · exact fun _ _ _ _ _ _ hlimit hcap => Database.queryNames hpos hlimit hcap
  · exact fun _ _ _ _ _ _ hlimit hcap => Client.reports_connect hpos hlimit hcap

/-- A cursor, a query and a session of a client whose settings are those without any others. -/
theorem Scene.timeouts_named_specimen : ∃ (c : Cursor Value) (s₁ : Scene),
    (Cursor.opened (Database.specimen .async).service Mapper.raw .null .null Batch.specimen).run
      Scene.specimen = (.ok c, s₁) ∧
    (c.toList none (some 50)).Reports (Request.Names 50 0) (Timeout.Names 50 0) s₁ ∧
    (Database.specimen .async).QueryNames Query.specimen Mapper.raw s₁ (some 30000) (some 10000) none
      30000 10000 ∧
    ((Client.make "1.0" none none none).connect .async "http://server"
      (some (.login (.str "root") (.str "secret"))) none true).Reports (Request.Names 30000 10000)
        (Timeout.Names 30000 10000) s₁ := by
  refine ⟨_, _, rfl, ?_, ?_, ?_⟩
  · refine ((Scene.timeouts_named _ (show (0 : Int) < 50 by decide)).1 _ none (some 50) ?_ ?_).1
    · exact .int (by decide)
    · exact .inr ⟨rfl, rfl⟩
  · exact (Scene.timeouts_named _ (by decide)).2.1 _ _ _ _ _ _ (.int (by decide)) (.inl rfl)
  · refine (Scene.timeouts_named _ (show (0 : Int) < 30000 by decide)).2.2 _ _ _ _ _ _ ?_ ?_
    · exact .int (by decide)
    · exact .inl rfl

/-! ### A setting that nobody has set -/

/-- The scene in which the reply to a query takes some time, and a batch takes too long. -/
def Scene.slow : Scene :=
  Scene.start 0
    [{ Outcome.specimen with elapsed := 30 },
      ⟨.response 200 [] ("\x7b\"result\":[],\"hasMore\":true,\"id\":\"7\"\x7d".toList.map
        fun x => x.val.toUInt8), 80, none⟩,
      ⟨.response 202 [] ("\x7b\"error\":false,\"code\":202\x7d".toList.map
        fun x => x.val.toUInt8), 0, none⟩]

/-- A query that is to be read as a whole within a tenth of a second. -/
def Database.hurried : Program (List Value) :=
  (specimen .blocking).query Query.specimen Mapper.raw none (some 10000) (some 100)

/-- Whether a limit is said to come from the setting for the method, with a value. -/
def TimeLimit.isGeneral (l : TimeLimit) (ms : Int) : Bool :=
  l.label == some generalTimeoutLabel &&
    match l.nominal with
    | .int nominal => nominal == ms
    | _ => false

theorem TimeLimit.eq_of_isGeneral {l : TimeLimit} {ms : Int} (h : l.isGeneral ms = true) :
    l.label = some generalTimeoutLabel ∧ l.nominal = .int ms := by
  unfold isGeneral at h
  rw [Bool.and_eq_true, beq_iff_eq] at h
  obtain ⟨hlabel, hnominal⟩ := h
  split at hnominal
  case h_1 nominal heq =>
    rw [beq_iff_eq] at hnominal
    exact ⟨hlabel, hnominal ▸ heq⟩
  case h_2 => cases hnominal

/-- Whether a query has sent a fetch under a limit that is said to be the one for the method, and has
failed with the same limit. -/
def Database.isRenamed (r : Except Failure (List Value) × Scene) (ms : Int) : Bool :=
  (r.2.sent.any fun q => q.method == "PUT" && q.limit.isGeneral ms) &&
    match r.1 with
    | .error (.timeout (.deadline label overall)) => TimeLimit.isGeneral ⟨.null, overall, label⟩ ms
    | _ => false

/-- **The list of a query names what was left** of the limit that was set: after a submission of 30
milliseconds, 70 are named in place of 100, by the limit of the fetch and by the message. -/
theorem Database.query_renamed : ∃ (q : Request) (s₁ : Scene),
    hurried.run Scene.slow =
      (.error (.timeout (.deadline (some generalTimeoutLabel) (.int 70))), s₁) ∧
    (Timeout.deadline (some generalTimeoutLabel) (.int 70)).message =
      "Operation timed out (timeout honoured: general_method_timeout_ms = 70 ms)." ∧
    q ∈ s₁.sent ∧ q.method = "PUT" ∧ q.limit.label = some generalTimeoutLabel ∧
    q.limit.nominal = .int 70 ∧
    ¬ hurried.Reports (Request.Names 100 10000) (Timeout.Names 100 10000) Scene.slow := by
  have hcheck : isRenamed (hurried.run Scene.slow) 70 = true := by decide +kernel
  unfold isRenamed at hcheck
  rw [Bool.and_eq_true, List.any_eq_true] at hcheck
  obtain ⟨⟨q, hsent, hput⟩, hend⟩ := hcheck
  rw [Bool.and_eq_true, beq_iff_eq] at hput
  obtain ⟨hlabel, hnominal⟩ := TimeLimit.eq_of_isGeneral hput.2
  refine ⟨q, (hurried.run Scene.slow).2, Prod.ext ?_ rfl, by decide +kernel, hsent, hput.1, hlabel,
    hnominal, fun hreports => ?_⟩
  · split at hend
    case h_1 label overall hr =>
      obtain ⟨rfl, rfl⟩ := TimeLimit.eq_of_isGeneral hend
      exact hr
    case h_2 => cases hend
  · -- the fetch would have to name what was set
    obtain ⟨⟨requests, hrequests, hnames⟩, -⟩ := hreports.run
    have hfetch : ¬ q.method = "DELETE" := by
      rw [hput.1]
      decide
    rw [hrequests] at hsent
    have hq := hnames q hsent
    unfold Request.Names at hq
    rw [if_neg hfetch] at hq
    cases hq with
    | general _ nominal => cases hnominal.symm.trans nominal
    | single label _ => exact requestLabel_ne (label.symm.trans hlabel)

end AqlClient
