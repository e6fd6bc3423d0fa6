import AqlClient.Collection
import AqlClient.Proofs.Cursor.Sending

/-!
# Limits of single requests

Zero limits nothing, so that it is the loosest of all limits (`Value.NoLooser`), and the strictest of
some limits is the least of those that limit something (`strictest`). The limit of a single request is
the strictest of those that are passed for it, unless one of them is zero and the other one is not
(`Mixed`): the lesser of two numbers is taken, and that is the zero then
(`TimeoutSettings.request_singleLimit`).

The limit that is chosen is carried by the request of every method that makes a single one
(`Session.Single`). A cursor keeps it for its further requests: whoever uses the cursor
(`Cursor.Usage`) sends every fetch and every release under that limit, but for the fetches that are
made under the deadline of a method that reads all that is left (`Request.Under`).
-/

namespace AqlClient

variable {α β : Type}

/-! ### Strict and loose limits -/

/-- **A value is a limit no looser than some milliseconds.** Zero limits nothing: nothing is looser
than it, and it is no looser than itself. -/
def Value.NoLooser (v : Value) (ms : Int) : Prop := ms = 0 ∨ ∃ i, v = .int i ∧ 0 < i ∧ i ≤ ms

/-- **The strictest of some limits:** the least of those that limit something, and zero if there are
none. -/
def strictest (limits : List Int) : Int := ((limits.filter fun ms => 0 < ms).min?).getD 0

/-- The limits that are passed for a call. -/
def passed (request timeout : Option Int) : List Int := request.toList ++ timeout.toList

/-- Two limits are passed, one of which limits nothing while the other one does. -/
def Mixed (request timeout : Option Int) : Prop :=
  ∃ r t, request = some r ∧ timeout = some t ∧ (r = 0 ↔ t ≠ 0)

/-- The strictest limit is no looser than any of them. -/
theorem noLooser_strictest {limits : List Int} (h : ∀ ms ∈ limits, 0 ≤ ms) {ms : Int}
    (hms : ms ∈ limits) : (Value.int (strictest limits)).NoLooser ms := by
  by_cases hzero : ms = 0
  · exact .inl hzero
  · have hnonneg := h ms hms
    have hpos : 0 < ms := by omega
    -- there is a limit that limits something, so that the least of them is no zero
    have hmem : ms ∈ limits.filter fun ms => 0 < ms :=
      List.mem_filter.2 ⟨hms, decide_eq_true hpos⟩
    unfold strictest
    cases hmin : (limits.filter fun ms => 0 < ms).min? with
    | none =>
      rw [List.min?_eq_none_iff.1 hmin] at hmem
      cases hmem
    | some least =>
      obtain ⟨hleast, hle⟩ := List.min?_eq_some_iff.1 hmin
      exact .inr ⟨least, rfl, of_decide_eq_true (List.mem_filter.1 hleast).2, hle ms hmem⟩

theorem strictest_singleton {ms : Int} (h : 0 ≤ ms) : strictest [ms] = ms := by
  unfold strictest
  by_cases hpos : 0 < ms
  · simp [hpos]
  · have hzero : ms = 0 := by omega
    simp [hzero]

/-- Two limits that both limit something, or both do not, are compared as numbers. -/
theorem strictest_pair {r t : Int} (hr : 0 ≤ r) (ht : 0 ≤ t) (h : ¬ (r = 0 ↔ t ≠ 0)) :
    strictest [r, t] = if r ≤ t then r else t := by
  unfold strictest
  by_cases hpos : 0 < r
  · have hpos' : 0 < t := by omega
    simp [hpos, hpos', Int.min_def]
  · have hzero : r = 0 := by omega
    have hzero' : t = 0 := by omega
    simp [hzero, hzero']

namespace TimeoutSettings

/-- **The limit of a single request.** If none is passed, it is that of the settings. If some are
passed, it is the strictest of them, unless it is mixed among them what limits something: then nothing
limits the request. -/
theorem request_singleLimit (s : TimeoutSettings) {request timeout : Option Int}
    (h : ∀ ms ∈ passed request timeout, 0 ≤ ms) :
    (passed request timeout = [] → (s.singleLimit request timeout).request = s.request) ∧
    (passed request timeout ≠ [] → ¬ Mixed request timeout →
      (s.singleLimit request timeout).request = .int (strictest (passed request timeout))) ∧
    (Mixed request timeout → (s.singleLimit request timeout).request = .int 0) := by
  refine ⟨fun hnone => ?_, fun hsome hmixed => ?_, ?_⟩
  · cases request with
    | some r => cases hnone
    | none =>
      cases timeout with
      | some t => cases hnone
      | none => rfl
  · cases request with
    | none =>
      cases timeout with
      | none => exact absurd rfl hsome
      | some t => exact congrArg Value.int (strictest_singleton (h t List.mem_cons_self)).symm
    | some r =>
      have hr : 0 ≤ r := h r List.mem_cons_self
      cases timeout with
      | none => exact congrArg Value.int (strictest_singleton hr).symm
      | some t =>
        have ht : 0 ≤ t := h t (List.mem_cons_of_mem _ List.mem_cons_self)
        have hboth : ¬ (r = 0 ↔ t ≠ 0) := fun hiff => hmixed ⟨r, t, rfl, rfl, hiff⟩
        have hpair : passed (some r) (some t) = [r, t] := rfl
        rw [hpair, strictest_pair hr ht hboth]
        unfold singleLimit single
        dsimp only
        split
        · rfl
        · rfl
  · -- the lesser one of two numbers that are not negative is the zero among them
    rintro ⟨r, t, rfl, rfl, hiff⟩
    have hr : 0 ≤ r := h r List.mem_cons_self
    have ht : 0 ≤ t := h t (List.mem_cons_of_mem _ List.mem_cons_self)
    unfold singleLimit single
    dsimp only
    split
    case isTrue hle => exact congrArg Value.int (show r = 0 by omega)
    case isFalse hle => exact congrArg Value.int (show t = 0 by omega)

/-- It is no looser than any limit that is passed just if it is not mixed what limits something. -/
theorem noLooser_iff (s : TimeoutSettings) {request timeout : Option Int}
    (h : ∀ ms ∈ passed request timeout, 0 ≤ ms) :
    (∀ ms ∈ passed request timeout, (s.singleLimit request timeout).request.NoLooser ms) ↔
      ¬ Mixed request timeout := by
  obtain ⟨-, hstrictest, hzero⟩ := s.request_singleLimit h
  constructor
  · intro hall hmixed
    rw [hzero hmixed] at hall
    obtain ⟨r, t, rfl, rfl, hiff⟩ := hmixed
    -- zero is no looser than zero alone, and one of the two limits is another number
    have hnot : ∀ ms, (Value.int 0).NoLooser ms → ms = 0 := by
      rintro ms (hms | ⟨i, hi, hpos, -⟩)
      · exact hms
      · cases hi
        exact absurd hpos (Int.lt_irrefl 0)
    have hr := hnot r (hall r List.mem_cons_self)
    have ht := hnot t (hall t (List.mem_cons_of_mem _ List.mem_cons_self))
    exact hiff.1 hr ht
  · intro hmixed ms hms
    rw [hstrictest (List.ne_nil_of_mem hms) hmixed]
    exact noLooser_strictest h hms

end TimeoutSettings

/-! ### Methods that make a single request -/

section Single

variable {session : Session} {request timeout : Option Int} {s : Scene}

/-- **The methods that make a single request,** in a session, in one of its databases or in a
collection there, with the limits that are passed to them. -/
inductive Session.Single (session : Session) (request timeout : Option Int) :
    {β : Type} → Program β → Prop
  | request (method path : String) (payload : Value) (params : Entries) :
      Single session request timeout (session.request method path payload params request timeout)
  | version : Single session request timeout (session.version request timeout)
  | accessibleDatabases :
      Single session request timeout (session.accessibleDatabases request timeout)
  | allDatabases : Single session request timeout (session.allDatabases request timeout)
  | info {d : Database} (hd : d.session = session) :
      Single session request timeout (d.info request timeout)
  | collections {d : Database} (hd : d.session = session) (excludeSystem : Bool) :
      Single session request timeout (d.collections excludeSystem request timeout)
  | infoOf {c : Collection} (hc : c.database.session = session) :
      Single session request timeout (c.info request timeout)
  | countOf {c : Collection} (hc : c.database.session = session) :
      Single session request timeout (c.count request timeout)

theorem Session.sends_request (session : Session) (method path : String) (payload : Value)
    (params : Entries) (request timeout : Option Int) (s : Scene) :
    (session.request method path payload params request timeout).Sends
      (fun _ q => q.limit = (session.limit request timeout).attached) s := by
  have hrequest : ∀ s', (session.gateway.request session.mode ⟨method, payload,
      some (Url.trimStart path), params, session.limit request timeout⟩).Sends
        (fun _ q => q.limit = (session.limit request timeout).attached) s' :=
    fun _ => Gateway.sends_request fun _ => rfl
  exact .bind trivial fun _ _ => .bind (hrequest _) fun _ _ => .bind trivial fun _ _ => trivial

/-- What is asked of a database, between two lines of the log. -/
theorem Database.sends_asked {d : Database} {before after path : String} {params : Entries}
    {parse : Entries → Program β} (hparse : ∀ envelope s', (parse envelope).Sends
      (fun _ q => q.limit = (d.session.limit request timeout).attached) s') (s : Scene) :
    Program.Sends (fun _ q => q.limit = (d.session.limit request timeout).attached) (do
      d.session.report before
      let envelope ← d.get path params request timeout
      d.session.report after
      parse envelope) s := by
  have hget : ∀ s', (d.get path params request timeout).Sends
      (fun _ q => q.limit = (d.session.limit request timeout).attached) s' :=
    fun _ => Gateway.sends_request fun _ => rfl
  exact .bind trivial fun _ s' => .bind (hget s') fun envelope _ => .bind trivial fun _ s'' =>
    hparse envelope s''

/-- **A method that makes a single request attaches the limit that is chosen.** -/
theorem Session.Single.sends {p : Program β} (h : session.Single request timeout p) (s : Scene) :
    p.Sends (fun _ q => q.limit = (session.limit request timeout).attached) s := by
  cases h with
  | request method path payload params => exact session.sends_request _ _ _ _ _ _ s
  | version => exact .bind (session.sends_request _ _ _ _ _ _ s) fun _ _ => trivial
  | accessibleDatabases => exact .bind (session.sends_request _ _ _ _ _ _ s) fun _ _ => trivial
  | allDatabases => exact .bind (session.sends_request _ _ _ _ _ _ s) fun _ _ => trivial
  | info hd =>
    subst hd
    refine Database.sends_asked (fun _ _ => ?_) s
    exact .bind trivial fun _ _ => trivial
  | collections hd excludeSystem =>
    subst hd
    refine Database.sends_asked (fun _ _ => ?_) s
    exact trivial
  | infoOf hc =>
    subst hc
    refine Database.sends_asked (fun _ _ => ?_) s
    exact trivial
  | countOf hc =>
    subst hc
    refine Database.sends_asked (fun _ _ => ?_) s
    exact trivial

end Single

/-! ### Cursors without deadlines -/

namespace Cursor

section Plain

variable {c : Cursor α} {may : Int → Request → Prop} {s : Scene}
  (hput : ∀ now id body, may now (c.request "PUT" id c.plainLimit body))

include hput

theorem sends_fetchPlain (s : Scene) : (c.fetchNext none).Sends may s := by
  refine sends_fetchNext fun id limit body hlimit => ?_
  obtain rfl := Except.ok.inj hlimit
  exact hput _ id body

/-- Looking for an item sends fetches. -/
theorem sends_fillPlain (s : Scene) : (c.fill none).Sends may s := by
  have hsupplied : c.Supplied (.timed may) none (fun _ _ => True) fun _ _ _ => True :=
    fun _ _ _ _ => Program.Sends.stays (fun s => sends_fetchPlain hput s) trivial
  exact Program.Sends.of_stays hsupplied.fill s

omit hput in
theorem sends_handOut (number : Nat) (s : Scene) : (c.handOut number).Sends may s := by
  unfold Program.Sends
  rw [wp_handOut]
  split
  · trivial
  · trivial

theorem sends_nextBatch (s : Scene) : c.nextBatch.Sends may s := by
  have hdrain : ∀ s', c.drain.Sends may s' := fun s' => .bind trivial fun state s'' =>
    sends_handOut _ s''
  unfold nextBatch Program.Sends
  rw [wp_look]
  split
  · exact Program.Sends.bind (sends_fetchPlain hput s) fun _ s' => hdrain s'
  · exact hdrain s

theorem sends_hasNext (s : Scene) : c.hasNext.Sends may s := by
  refine Program.Sends.bind (p := c.look) trivial fun state s' => ?_
  split
  · trivial
  · exact .bind (sends_fillPlain hput s') fun _ s'' => .bind (p := c.look) trivial fun _ _ => trivial

variable (hdelete : ∀ now id body, may now (c.request "DELETE" id c.plainLimit body))

include hdelete

theorem sends_next (s : Scene) : c.next?.Sends may s := by
  refine Program.Sends.bind (p := c.look) trivial fun state s' => ?_
  split
  · trivial
  · refine .bind (sends_fillPlain hput s') fun _ s'' => ?_
    refine .bind (p := c.look) trivial fun state s₃ => ?_
    split
    · exact .bind (sends_close hdelete) fun _ _ => trivial
    · exact .bind (sends_handOut 1 s₃) fun _ _ => trivial

/-- Going through the items sends what a step for each of them sends, and what the function sends that
is called on them. -/
theorem sends_iterate {visit : α → Program Bool} (hvisit : ∀ a s', (visit a).Sends may s')
    (s : Scene) : (c.iterate visit).Sends may s := by
  have halive : c.ensureAlive.Sends may s := by
    refine Program.Sends.bind (p := c.look) trivial fun state s' => ?_
    split
    · trivial
    · trivial
  refine .bind halive fun _ s' => Program.Sends.of_stays (stays_visitAll ?_ fun a => ?_) s'
  · exact Program.Sends.stays fun s'' => sends_next hput hdelete s''
  · exact Program.Sends.stays (hvisit a)

end Plain

end Cursor

/-! ### What a cursor is used for -/

/-- **A request under a limit,** or one that a deadline has been set for: then it is a fetch, and under
what remains of the deadline for a request with that limit. -/
def Request.Under (cap : Value) (deadlines : Prop) (now : Int) (q : Request) : Prop :=
  q.limit.request = cap ∨ deadlines ∧ q.method = "PUT" ∧ ∃ (d : Deadline) (limit : TimeLimit),
    d.remaining now cap (some requestTimeoutLabel) = .ok limit ∧ q.limit = limit.attached

/-- **What a cursor is used for.** Other things may be done in between, with requests of another kind.
The methods that set a deadline are told apart. -/
inductive Cursor.Usage (c : Cursor α) (other : Request → Prop) (deadlines : Prop) :
    {β : Type} → Program β → Prop
  | aside {β : Type} {p : Program β} :
      (∀ s, p.Sends (fun _ => other) s) → Usage c other deadlines p
  | bind {β γ : Type} {p : Program β} {f : β → Program γ} : Usage c other deadlines p →
      (∀ b, Usage c other deadlines (f b)) → Usage c other deadlines (p >>= f)
  | attempt {β : Type} {p : Program β} :
      Usage c other deadlines p → Usage c other deadlines p.attempt
  | next : Usage c other deadlines c.next?
  | nextBatch : Usage c other deadlines c.nextBatch
  | hasNext : Usage c other deadlines c.hasNext
  | close : Usage c other deadlines c.close
  | iterate {visit : α → Program Bool} :
      (∀ a, Usage c other deadlines (visit a)) → Usage c other deadlines (c.iterate visit)
  | closing {β : Type} {body : Program β} :
      Usage c other deadlines body → Usage c other deadlines (c.closing body)
  | toList (general timeout : Option Int) : deadlines →
      Usage c other deadlines (c.toList general timeout)
  | forEach {visit : α → Program Bool} (general timeout : Option Int) : deadlines →
      (∀ a, Usage c other deadlines (visit a)) →
      Usage c other deadlines (c.forEach visit general timeout)

namespace Cursor

variable {c : Cursor α} {other : Request → Prop} {deadlines : Prop}

/-- The requests of a cursor, and others. -/
def Keeps (c : Cursor α) (other : Request → Prop) (deadlines : Prop) (now : Int) (q : Request) :
    Prop := other q ∨ q.Under c.requestLimit deadlines now

theorem keeps_plain (method : String) (now : Int) (id : String) (body : Option String) :
    c.Keeps other deadlines now (c.request method id c.plainLimit body) :=
  .inr (.inl c.plainLimit.attached_request)

theorem keeps_granted (h : deadlines) {d : Deadline} {now : Int} {limit : TimeLimit}
    (hlimit : c.limitAt (some d) now = .ok limit) (id : String) (body : Option String) :
    c.Keeps other deadlines now (c.request "PUT" id limit body) :=
  .inr (.inr ⟨h, rfl, d, limit, hlimit, rfl⟩)

/-- Reading under a deadline sends fetches under it, and the release. -/
theorem sends_deadline (h : deadlines) {limit : Value} {body : Deadline → Program β}
    (hbody : ∀ d s, c.Supplied (.timed (c.Keeps other deadlines)) (some d) (fun (_ : Unit) _ => True)
      (fun _ _ _ => True) → (body d).Sends (c.Keeps other deadlines) s) (s : Scene) :
    (c.underDeadline limit fun d => c.closing (body d)).Sends (c.Keeps other deadlines) s :=
  sends_underDeadline (fun now id body => keeps_plain "DELETE" now id body) fun d _ =>
    hbody d s (supplied_timed fun _ id _ body hlimit => keeps_granted h hlimit id body)

/-- **Whatever a cursor is used for, its requests are under its limit,** by induction on what is
done with it. -/
theorem Usage.sends {p : Program β} (hp : c.Usage other deadlines p) (s : Scene) :
    p.Sends (c.Keeps other deadlines) s := by
  have hput : ∀ now id body, c.Keeps other deadlines now (c.request "PUT" id c.plainLimit body) :=
    keeps_plain "PUT"
  have hdelete : ∀ now id body,
      c.Keeps other deadlines now (c.request "DELETE" id c.plainLimit body) := keeps_plain "DELETE"
  induction hp generalizing s with
  | aside hother => exact (hother s).mono fun _ _ => .inl
  | bind _ _ ihp ihf => exact .bind (ihp s) fun b s' => ihf b s'
  | attempt _ ih =>
    rw [← Program.bind_pure (Program.attempt _)]
    exact .attempt_bind (ih s) fun _ _ => trivial
  | next => exact sends_next hput hdelete s
  | nextBatch => exact sends_nextBatch hput s
  | hasNext => exact sends_hasNext hput s
  | close => exact sends_close hdelete
  | iterate _ ih => exact sends_iterate hput hdelete ih s
  | closing _ ih => exact sends_closing hdelete (ih s)
  | toList general timeout h =>
    -- the fetches in front of the release are those under the deadline that is set
    have hremainder : ∀ d, c.remainder d = c.remainderBy c.drain d := remainder_eq
    show (c.underDeadline (c.overall general timeout) fun d => c.closing (c.remainder d)).Sends _ s
    simp only [hremainder]
    refine sends_deadline h (fun d s' hsupplied => Program.Sends.of_stays ?_ s') s
    exact hsupplied.remainderBy
      (empties_drain fun number => Program.Sends.stays fun s'' => sends_handOut number s'')
  | forEach general timeout h _ ih =>
    show (c.underDeadline (c.overall general timeout) fun d =>
      c.closing (c.visitAll (c.pullUnder d) _)).Sends _ s
    refine sends_deadline h (fun d s' hsupplied => Program.Sends.of_stays ?_ s') s
    refine stays_visitAll (Program.stays_bind hsupplied.fill fun _ => ?_) fun a =>
      Program.Sends.stays (ih a)
    exact Program.Sends.stays fun s'' => .bind (sends_handOut 1 s'') fun _ _ => trivial

end Cursor

/-- **A cursor keeps the limit that is chosen for the submission.** Whatever is done with the cursor
that comes of submitting a query, the submission and all its further requests are under that limit. -/
theorem Database.sends_cursor {d : Database} {other : Request → Prop} {deadlines : Prop}
    {k : Cursor α → Program β} (hk : ∀ c : Cursor α, c.Usage other deadlines (k c)) (q : Query)
    (mapper : Mapper α) (request timeout : Option Int) (s : Scene) :
    (d.cursor q mapper request timeout >>= k).Sends (fun now q => other q ∨
      q.Under (d.session.limit request timeout).request deadlines now) s := by
  have hsubmit : (d.service.submit q (d.session.limit request timeout)).Sends (fun now q => other q ∨
      q.Under (d.session.limit request timeout).request deadlines now) s :=
    QueryService.sends_submit fun body => .inr (.inl (TimeLimit.attached_request _))
  have hopened : ∀ first s', ((Cursor.opened d.service mapper
      (d.session.limit request timeout).request d.session.options.timeouts.general first) >>=
        k).Sends (fun now q => other q ∨
          q.Under (d.session.limit request timeout).request deadlines now) s' := by
    intro first s'
    -- ingesting the first batch may fail, but leaves the limit of the cursor alone
    refine Program.wp_seq (R := fun r _ _ => ∀ c : Cursor α, r = .ok c →
      c.requestLimit = (d.session.limit request timeout).request) ?_ ?_ fun _ _ _ _ => trivial
    · unfold Cursor.opened
      rw [Program.wp_view_bind, Program.wp_update_bind]
      refine Program.wp_seq (Cursor.sends_ingest first) (fun _ _ _ _ => ?_) fun _ _ _ _ => ?_
      · rintro _ ⟨⟩
        rfl
      · rintro _ ⟨⟩
    · intro c _ s'' hc
      rw [← hc c rfl]
      exact (hk c).sends s''
  show ((d.service.submit q _ >>= fun first => Cursor.opened d.service mapper _ _ first) >>= k).Sends
    _ s
  rw [Program.bind_assoc]
  exact .bind hsubmit hopened

/-- **The limit of single requests.** A method that makes a single request attaches the limit that is
chosen for it, and whoever submits a query and uses the cursor sends the submission and all further
requests under that limit, but for fetches under the deadline of a method that sets one. The limit that
is chosen is that of the settings if none is passed, and the strictest of those that are passed, unless
it is mixed among them what limits something; otherwise it is no limit at all, so that it is no looser
than each of them just if it is not mixed. -/
theorem Session.strictest_attached (session : Session) (request timeout : Option Int)
    (h : ∀ ms ∈ passed request timeout, 0 ≤ ms) :
    (∀ {β : Type} (p : Program β) (s : Scene), session.Single request timeout p →
      p.Sends (fun _ q => q.limit.request = (session.limit request timeout).request) s) ∧
    (∀ {α β : Type} (d : Database) (q : Query) (mapper : Mapper α) (other : Request → Prop)
      (deadlines : Prop) (k : Cursor α → Program β) (s : Scene), d.session = session →
      (∀ c : Cursor α, c.Usage other deadlines (k c)) →
      (d.cursor q mapper request timeout >>= k).Sends (fun now q => other q ∨
        q.Under (session.limit request timeout).request deadlines now) s) ∧
    (passed request timeout = [] →
      (session.limit request timeout).request = session.options.timeouts.request) ∧
    (passed request timeout ≠ [] → ¬ Mixed request timeout →
      (session.limit request timeout).request = .int (strictest (passed request timeout))) ∧
    (Mixed request timeout → (session.limit request timeout).request = .int 0) ∧
    ((∀ ms ∈ passed request timeout, (session.limit request timeout).request.NoLooser ms) ↔
      ¬ Mixed request timeout) := by
  obtain ⟨hnone, hsome, hmixed⟩ := session.options.timeouts.request_singleLimit h
  refine ⟨fun p s hp => ?_, ?_, hnone, hsome, hmixed, session.options.timeouts.noLooser_iff h⟩
  · refine (hp.sends s).mono fun _ q hq => ?_
    rw [hq]
    exact TimeLimit.attached_request _
  · rintro α β d q mapper other deadlines k s rfl hk
    exact Database.sends_cursor hk q mapper request timeout s

/-- A cursor that is submitted with two limits, and closed after a batch, sends all its requests under
the lesser of them. -/
theorem Session.strictest_attached_specimen :
    ((Database.specimen .blocking).cursor Query.specimen Mapper.raw (some 7) (some 5) >>= fun c =>
      c.nextBatch >>= fun _ => c.close).Sends (fun _ q => q.limit.request = .int 5)
        Scene.specimen ∧
    (Value.int 5).NoLooser 7 := by
  have hnonneg : ∀ ms ∈ passed (some 7) (some 5), 0 ≤ ms := by decide
  have hmixed : ¬ Mixed (some 7) (some 5) := by
    rintro ⟨_, _, ⟨⟩, ⟨⟩, hiff⟩
    omega
  obtain ⟨-, hcursor, -, hstrictest, -, hnoLooser⟩ :=
    (Database.specimen .blocking).session.strictest_attached (some 7) (some 5) hnonneg
  have hlimit : ((Database.specimen .blocking).session.limit (some 7) (some 5)).request = .int 5 :=
    hstrictest (List.cons_ne_nil _ _) hmixed
  have huse : ∀ c : Cursor Value, c.Usage (fun _ => False) False (c.nextBatch >>= fun _ => c.close) :=
    fun c => .bind .nextBatch fun _ => .close
  have hsends := hcursor (Database.specimen .blocking) Query.specimen Mapper.raw (fun _ => False)
    False _ Scene.specimen rfl huse
  refine ⟨hsends.mono fun _ q hq => ?_, ?_⟩
  · obtain hother | hcap | ⟨hdeadlines, -⟩ := hq
    · exact hother.elim
    · exact hcap.trans hlimit
    · exact hdeadlines.elim
  · rw [← hlimit]
    exact hnoLooser.2 hmixed 7 List.mem_cons_self

/-! ### Zero for the lesser limit -/

/-- The scene in which a server is about to tell its version. -/
def Scene.ofVersion : Scene :=
  Scene.start 0 [⟨.response 200 [] (Utf8.encode
    "\x7b\"server\":\"arango\",\"version\":\"3\",\"license\":\"community\"\x7d"), 0, none⟩]

theorem Value.eq_int_of_int? {v : Value} {i : Int} (h : v.int? = some i) : v = .int i := by
  cases v with
  | int j => exact congrArg Value.int (Option.some.inj h)
  | _ => cases h

/-- The limits, as numbers, of the requests that have been sent. -/
def Scene.sentLimits (s : Scene) : List (Option Int) := s.sent.map fun q => q.limit.request.int?

/-- **A limit is lost** if it is passed beside a zero: the request is sent without any limit. -/
theorem Session.version_unlimited : ∃ q : Request,
    (((Database.specimen .blocking).session.version (some 0) (some 5)).run Scene.ofVersion).2.sent =
      [q] ∧ q.limit.request = .int 0 ∧ ¬ q.limit.request.NoLooser 5 ∧ Mixed (some 0) (some 5) := by
  have hlimits : (((Database.specimen .blocking).session.version (some 0) (some 5)).run
      Scene.ofVersion).2.sentLimits = [some 0] := by decide +kernel
  obtain ⟨q, hsent, hnumber⟩ := List.map_eq_singleton_iff.1 hlimits
  have hzero : q.limit.request = .int 0 := Value.eq_int_of_int? hnumber
  refine ⟨q, hsent, hzero, ?_, ⟨0, 5, rfl, rfl, by decide⟩⟩
  rw [hzero]
  rintro (habsurd | ⟨i, hi, hpos, -⟩)
  · cases habsurd
  · cases hi
    exact absurd hpos (Int.lt_irrefl 0)

end AqlClient
