import AqlClient.Proofs.Cursor.Upkeep
import AqlClient.Proofs.Envelope
import AqlClient.Proofs.Program.Replies

/-!
# A second fetch is refused

While a batch is on its way to an asynchronous cursor that needs it (`Cursor.Busy`), whoever needs
another fetch is refused (`Cursor.Refuses`).

A single fetch and the methods that make one come to the refusal at once, without changing
anything (`Program.atOnce`). The methods that close the cursor behind themselves may be held up
by the release. What they end with depends on nothing but how the release fails, so that this is
shown under a discipline that relies on nothing else (`Discipline.hostile`): the refusal is what
they end with, unless the release has failed in a way that `Cursor.closeAfterFailure` lets through
(`Cursor.Refused`).

What they leave behind is a cursor that is given up (`Cursor.GivenUp`). It is closed and empty when
the one release is sent (`Cursor.releasing`), and nothing is done to it behind that. The batch that
is on its way may still arrive at the closed cursor meanwhile, so that the state in which the reply
is found is that of a closed cursor, and no more is said of it.
-/

namespace AqlClient

variable {α β : Type} {c : Cursor α}

/-- A batch is on its way to an asynchronous cursor, which needs it. -/
structure Cursor.Busy (c : Cursor α) (s : Scene) : Prop where
  async : c.service.mode = .async
  fetching : (s.cursors c.ref).fetching = true
  phase : (s.cursors c.ref).phase = .live
  buffer : (s.cursors c.ref).buffer = []

namespace Cursor

/-- What a cursor says to whoever needs another fetch. -/
def refusal : Failure := .misuse .fetchInProgress .live

namespace Busy

variable {s : Scene}

theorem needsFetch (h : c.Busy s) : (s.cursors c.ref).needsFetch = true := by
  unfold CursorState.needsFetch
  rw [h.buffer, h.phase]
  rfl

/-- **A fetch is refused** while another one is on its way, and nothing else happens. -/
theorem fetchNext (h : c.Busy s) (deadline : Option Deadline) :
    (c.fetchNext deadline).atOnce s = some (.error refusal, s) := by
  have halone : (c.fetchAlone deadline).atOnce s = some (.error refusal, s) := by
    unfold fetchAlone
    rw [atOnce_look, if_pos h.fetching, h.phase]
    exact Program.atOnce_bind_error (Program.atOnce_throw _ _)
  unfold Cursor.fetchNext
  rw [h.async]
  exact Program.atOnce_bind_error halone

theorem fill (h : c.Busy s) (deadline : Option Deadline) :
    (c.fill deadline).atOnce s = some (.error refusal, s) := by
  unfold Cursor.fill
  rw [Program.atOnce_view_bind]
  unfold Scene.horizon fillWithin
  rw [atOnce_look, if_pos h.needsFetch]
  exact Program.atOnce_bind_error (h.fetchNext deadline)

theorem nextBatch (h : c.Busy s) : c.nextBatch.atOnce s = some (.error refusal, s) := by
  unfold Cursor.nextBatch
  rw [atOnce_look, if_pos h.needsFetch]
  exact Program.atOnce_bind_error (h.fetchNext none)

theorem not_closed (h : c.Busy s) : (s.cursors c.ref).phase ≠ .closed := by
  rw [h.phase]
  exact Phase.noConfusion

theorem next (h : c.Busy s) : c.next?.atOnce s = some (.error refusal, s) := by
  unfold next?
  rw [atOnce_look, if_neg h.not_closed]
  exact Program.atOnce_bind_error (h.fill none)

theorem hasNext (h : c.Busy s) : c.hasNext.atOnce s = some (.error refusal, s) := by
  unfold Cursor.hasNext
  rw [atOnce_look, if_neg h.not_closed]
  exact Program.atOnce_bind_error (h.fill none)

/-- A method that reads all that is left begins with its deadline. -/
theorem deadline (h : c.Busy s) {overall : Value} {d : Deadline}
    (hd : Deadline.starting s.now overall (some generalTimeoutLabel) = .ok d) :
    (c.deadline overall).atOnce s = some (.ok d, s) := by
  have halive : c.ensureAlive.atOnce s = some (.ok (), s) := by
    unfold ensureAlive
    rw [atOnce_look, if_neg h.not_closed]
    rfl
  unfold Cursor.deadline Program.now
  rw [Program.atOnce_bind_ok halive, Program.atOnce_view_bind, hd]
  rfl

/-- Handing out an empty buffer changes nothing. -/
theorem drain (h : c.Busy s) :
    c.drain.atOnce s = some (.ok [], s.changeCursor c.ref (.taken 0)) := by
  unfold Cursor.drain handOut
  rw [atOnce_look, atOnce_look, h.buffer]
  rfl

theorem take (h : c.Busy s) : c.Busy (s.changeCursor c.ref (.taken 0)) := by
  have hstate : (s.changeCursor c.ref (.taken 0)).cursors c.ref = (s.cursors c.ref).taken 0 :=
    s.changeCursor_cursors_self c.ref (.taken 0)
  refine ⟨h.async, ?_, ?_, ?_⟩
  · rw [hstate]; exact h.fetching
  · rw [hstate]; exact h.phase
  · rw [hstate]; exact h.buffer

theorem collect (h : c.Busy s) (d : Deadline) (rounds : Nat) :
    (c.collect d (rounds + 1)).atOnce s = some (.error refusal, s) := by
  unfold Cursor.collect
  rw [atOnce_look, if_pos h.phase]
  exact Program.atOnce_bind_error (h.fetchNext (some d))

end Busy

/-- Going through the items ends where the first one is refused. -/
theorem atOnce_visitAll {s : Scene} {e : Failure} {pull : Program (Option α)}
    {visit : α → Program Bool} (hpull : pull.atOnce s = some (.error e, s)) :
    (c.visitAll pull visit).atOnce s = some (.error e, s) := by
  unfold visitAll
  rw [Program.atOnce_view_bind]
  unfold Scene.horizon visitRounds
  rw [atOnce_look]
  have hitems : (visitItems pull visit ((s.cursors c.ref).buffer.length + 1)).atOnce s =
      some (.error e, s) := by
    unfold visitItems
    exact Program.atOnce_bind_error hpull
  exact Program.atOnce_bind_error hitems

/-! ### Behind a refusal -/

variable {fails : Failure → Prop} {may : Request → Prop} {s : Scene}

/-- A failure that the client reports, or one of an exchange. -/
def Expected (fails : Failure → Prop) (r : Except Failure β) : Prop :=
  ∀ e, r = .error e → e.isClientError = true ∨ fails e

theorem Expected.ofError {e : Failure} (h : Expected fails (.error e : Except Failure α)) :
    Expected fails (.error e : Except Failure β) := by
  rintro _ ⟨⟩
  exact h e rfl

/-- What tells of an answer is expected. -/
theorem expected_of_readable {r : Except Failure β} (h : Readable r) : Expected fails r :=
  fun e he => .inl (Failure.isClientError_of_isAnswer (h e he))

/-- A call without a payload fails as expected, also where there is no channel for it if that is
among the failures that are. -/
theorem wp_request_expected {g : Gateway} {call : Call} {mode : Mode}
    (hchannel : g.channel ≠ some mode → ∀ refusal, fails (.refused refusal))
    (hpayload : call.payload = .null) (hmay : ∀ body, may (g.requestFor call body)) :
    (g.request mode call).wp (.hostile may fails) (fun r _ _ => Expected fails r) () s := by
  have hexchange : (g.exchange mode call).wp (.hostile may fails)
      (fun r _ _ => Expected fails r) () s := by
    unfold Gateway.exchange
    split
    case isTrue hne =>
      rintro _ ⟨⟩
      exact .inr (hchannel hne _)
    case isFalse =>
      rw [hpayload, Program.wp_bind, Program.wp_ofExcept]
      show Program.wp _ (Program.each _ _ >>= _) _ _ _
      refine Program.wp_lines_bind logless_true _ _ _ trivial fun _ s _ => ?_
      -- the channel is there and nothing has to be written, so that only the exchange can fail
      rw [Program.wp_bind, Program.wp_send]
      refine ⟨hmay none, fun w reply s hback => ?_⟩
      cases reply with
      | error e =>
        rintro _ ⟨⟩
        exact .inr (hback e rfl)
      | ok response =>
        exact Program.wp_lines_bind logless_true _ _ _ trivial fun _ _ _ e he => nomatch he
  unfold Gateway.request
  refine Program.wp_seq hexchange ?_ fun e _ _ h => h.ofError
  intro response _ s _
  unfold Gateway.readEnvelope
  split
  · exact fun e he => nomatch he
  case h_2 e he =>
    refine Program.wp_lines_bind logless_true _ _ _ trivial ?_
    rintro _ s - e' ⟨⟩
    exact expected_of_readable (Envelope.readable_read _ _) _ he

/-- A release is sent and fails as expected. -/
theorem wp_close_expected
    (hchannel : c.service.gateway.channel ≠ some c.service.mode →
      ∀ refusal, fails (.refused refusal))
    (hmay : ∀ id limit body, may (c.request "DELETE" id limit body)) :
    c.close.wp (.hostile may fails) (fun r _ _ => Expected fails r) () s := by
  unfold close
  rw [wp_look, wp_update]
  split
  · exact fun e he => nomatch he
  case h_2 id _ =>
    unfold QueryService.release
    rw [QueryService.wp_report_bind, Program.wp_attempt_bind]
    refine Program.wp_mono (wp_request_expected hchannel rfl (hmay id c.plainLimit)) ?_
    intro r w s h
    split
    · exact fun e he => nomatch he
    · split
      · exact fun e he => nomatch he
      · exact h.ofError
    · exact h.ofError

/-- Closing a cursor behind a failure fails only where the exchange has, in a way that the client
does not report. -/
theorem wp_closeAfterFailure_expected
    (hchannel : c.service.gateway.channel = some c.service.mode)
    (hmay : ∀ id limit body, may (c.request "DELETE" id limit body)) :
    c.closeAfterFailure.wp (.hostile may fails)
      (fun r _ _ => ∀ e, r = .error e → e.isClientError = false ∧ fails e) () s := by
  unfold closeAfterFailure
  rw [Program.wp_attempt_bind]
  refine Program.wp_mono (wp_close_expected (fun hne => absurd hchannel hne) hmay)
    fun r w s h => ?_
  cases r with
  | ok _ => exact fun e he => nomatch he
  | error e =>
    -- what the client reports itself is logged and forgotten
    by_cases hclient : e.isClientError = true
    · show (if e.isClientError = true then _ else _ : Program Unit).wp _ _ _ _
      rw [if_pos hclient]
      exact fun e he => nomatch he
    · show (if e.isClientError = true then _ else _ : Program Unit).wp _ _ _ _
      rw [if_neg hclient]
      rintro _ ⟨⟩
      obtain hclient' | hfails := h e rfl
      · exact absurd hclient' hclient
      · exact ⟨Bool.eq_false_iff.2 hclient, hfails⟩

/-- **What comes of a failure** behind which the cursor is closed: the failure itself, unless the
release has failed in a way that the client does not report. -/
def FailsWith (e : Failure) (fails : Failure → Prop) (r : Except Failure β) : Prop :=
  r = .error e ∨ ∃ e', r = .error e' ∧ e'.isClientError = false ∧ fails e'

/-- What comes of a method that closes the cursor behind a refusal: the refusal, unless the release
has failed in a way that the client does not report. -/
def Refused (fails : Failure → Prop) (r : Except Failure β) : Prop :=
  r = .error refusal ∨ ∃ e, r = .error e ∧ e.isClientError = false ∧ fails e

/-- **A failure that the client reports prevails** when the cursor is closed behind it. -/
theorem wp_closing_failsWith (hchannel : c.service.gateway.channel = some c.service.mode)
    (hmay : ∀ id limit body, may (c.request "DELETE" id limit body)) {e : Failure}
    {body : Program β}
    (hbody : body.wp (.hostile may fails) (fun r _ _ => FailsWith e fails r) () s) :
    (c.closing body).wp (.hostile may fails) (fun r _ _ => FailsWith e fails r) () s := by
  have hbehind : ∀ (e' : Failure) w s', FailsWith e fails (.error e' : Except Failure β) →
      (c.closeAfterFailure >>= fun _ => throw e' : Program β).wp (.hostile may fails)
        (fun r _ _ => FailsWith e fails r) w s' := by
    intro e' w s' hend
    refine Program.wp_seq (wp_closeAfterFailure_expected hchannel hmay) (fun _ _ _ _ => hend) ?_
    exact fun e'' _ _ h => .inr ⟨e'', rfl, h e'' rfl⟩
  unfold closing
  rw [Program.wp_attempt_bind]
  refine Program.wp_mono hbody fun r w s' hend => ?_
  cases r with
  | ok b =>
    obtain hok | ⟨_, hok, -⟩ := hend
    · cases hok
    · cases hok
  | error e' => exact hbehind e' w s' hend

/-! ### What is left behind a refusal -/

/-- **The terms of a release** from a state: the release of the cursor is the one request that may
be sent, while the cursor is in that state. The others do not reopen a closed cursor meanwhile. The
view is the state in which the reply has found the cursor. -/
def releasing (c : Cursor α) (id : String) (closed : CursorState) (fails : Failure → Prop) :
    Discipline (Option CursorState) where
  may found s q := found = none ∧ s.cursors c.ref = closed ∧
    ∃ body, q = c.request "DELETE" id c.plainLimit body
  back _ _ _ found reply s' := found = some (s'.cursors c.ref) ∧
    (s'.cursors c.ref).phase = .closed ∧ ∀ e, reply = .error e → fails e

/-- **A cursor is given up:** its release has been sent, and the cursor is closed and still as the
reply has found it. -/
structure GivenUp (c : Cursor α) (found : Option CursorState) (s : Scene) : Prop where
  released : found = some (s.cursors c.ref)
  closed : (s.cursors c.ref).phase = .closed

theorem logless_givenUp : Logless c.GivenUp := fun _ _ _ _ h => ⟨h.released, h.closed⟩

/-- How a method ends that closes the cursor behind a refusal. -/
def RefusedFor (c : Cursor α) (fails : Failure → Prop) (r : Except Failure β)
    (found : Option CursorState) (s : Scene) : Prop :=
  Refused fails r ∧ c.GivenUp found s

section Closing

variable (hchannel : c.service.gateway.channel = some c.service.mode) {id : String}

include hchannel

/-- Closing a live cursor gives it up: from the closed state the release is sent for certain. -/
theorem wp_close_givenUp (hlive : (s.cursors c.ref).phase = .live)
    (hid : (s.cursors c.ref).cursorId = some id) :
    c.close.wp (c.releasing id (s.cursors c.ref).close fails) (fun _ found s' => c.GivenUp found s')
      none s := by
  let I : Option CursorState → Scene → Prop := fun found s' =>
    found = none ∧ s'.cursors c.ref = (s.cursors c.ref).close
  have hcarries : c.service.gateway.Carries (c.releasing id (s.cursors c.ref).close fails) I
      c.GivenUp (QueryService.cursorCall "DELETE" id c.plainLimit) := by
    rintro body found s' ⟨hnone, hstate⟩
    refine ⟨⟨hnone, hstate, body, rfl⟩, ?_⟩
    rintro found' reply s'' ⟨hfound, hclosed, -⟩
    exact ⟨hfound, hclosed⟩
  unfold close
  rw [wp_look, wp_update, CursorState.toRelease_eq_some_iff.2 ⟨hlive, hid⟩]
  exact QueryService.wp_release_sent (I := I) (fun _ _ _ _ h => h) logless_givenUp hcarries hchannel
    ⟨rfl, s.changeCursor_cursors_self c.ref .closed⟩

/-- **A program that is refused at once** gives the cursor up when the cursor is closed behind it,
and is refused still. -/
theorem wp_closing_refused {body : Program β} {s' : Scene}
    (hbody : body.atOnce s = some (.error refusal, s'))
    (hlive : (s'.cursors c.ref).phase = .live) (hid : (s'.cursors c.ref).cursorId = some id) :
    (c.closing body).wp (c.releasing id (s'.cursors c.ref).close fails) (c.RefusedFor fails)
      none s := by
  have hgivenUp : (c.closing body).wp (c.releasing id (s'.cursors c.ref).close fails)
      (fun _ found s'' => c.GivenUp found s'') none s :=
    wp_closing_of logless_givenUp
      ((Program.wp_of_atOnce hbody).2 (wp_close_givenUp hchannel hlive hid))
  have hrefused : (c.closing body).wp (.hostile (fun _ => True) fails)
      (fun r _ _ => FailsWith refusal fails r) () s :=
    wp_closing_failsWith hchannel (fun _ _ _ => trivial)
      ((Program.wp_of_atOnce hbody).2 (.inl rfl))
  -- what the method ends with depends on the failures of the release only
  refine Program.wp_mono (Program.wp_and (fun _ _ _ _ _ _ hback => hback.2.2) hgivenUp hrefused) ?_
  exact fun r found s'' hend => ⟨hend.2, hend.1⟩

end Closing

namespace Busy

variable {d : Deadline} {general timeout : Option Int} {id : String} (h : c.Busy s)
  (hchannel : c.service.gateway.channel = some c.service.mode)
  (hid : (s.cursors c.ref).cursorId = some id)
  (hd : Deadline.starting s.now (c.overall general timeout) (some generalTimeoutLabel) = .ok d)

include h hchannel hid hd

/-- **Reading all that is left is refused** while a batch is on its way. -/
theorem wp_toList :
    (c.toList general timeout).wp (c.releasing id (s.cursors c.ref).close fails)
      (c.RefusedFor fails) none s := by
  have hstate : (s.changeCursor c.ref (.taken 0)).cursors c.ref = (s.cursors c.ref).taken 0 :=
    s.changeCursor_cursors_self c.ref (.taken 0)
  -- what has been handed out of the empty buffer makes no difference to the closed state
  have hclosed : ((s.changeCursor c.ref (.taken 0)).cursors c.ref).close =
      (s.cursors c.ref).close := by
    rw [hstate]
    rfl
  unfold toList toListWithin
  rw [Program.wp_bind, Program.wp_of_atOnce (h.deadline hd), Program.chain_ok, ← hclosed]
  refine wp_closing_refused hchannel
    (?_ : _ = some (Except.error refusal, s.changeCursor c.ref (.taken 0))) h.take.phase ?_
  · rw [Program.atOnce_bind_ok h.drain, Program.atOnce_view_bind]
    exact Program.atOnce_bind_error (h.take.collect d _)
  · rw [hstate]
    exact hid

/-- **Calling a function on all that is left is refused** while a batch is on its way. -/
theorem wp_forEach (visit : α → Program Bool) :
    (c.forEach visit general timeout).wp (c.releasing id (s.cursors c.ref).close fails)
      (c.RefusedFor fails) none s := by
  unfold forEach
  rw [Program.wp_bind, Program.wp_of_atOnce (h.deadline hd), Program.chain_ok]
  refine wp_closing_refused hchannel (atOnce_visitAll ?_) h.phase hid
  unfold pullUnder
  exact Program.atOnce_bind_error (h.fill (some d))

end Busy

/-- **What a cursor refuses:** another fetch, and every method that needs one. A method that closes
the cursor behind itself sends nothing but one release meanwhile, from the closed and empty cursor,
which is given up by that. -/
structure Refuses (c : Cursor α) (s : Scene) : Prop where
  fetchNext : ∀ deadline, (c.fetchNext deadline).atOnce s = some (.error refusal, s)
  next : c.next?.atOnce s = some (.error refusal, s)
  nextBatch : c.nextBatch.atOnce s = some (.error refusal, s)
  hasNext : c.hasNext.atOnce s = some (.error refusal, s)
  toList : ∀ id general timeout d fails, (s.cursors c.ref).cursorId = some id →
    Deadline.starting s.now (c.overall general timeout) (some generalTimeoutLabel) = .ok d →
      (c.toList general timeout).wp (c.releasing id (s.cursors c.ref).close fails)
        (c.RefusedFor fails) none s
  forEach : ∀ visit id general timeout d fails, (s.cursors c.ref).cursorId = some id →
    Deadline.starting s.now (c.overall general timeout) (some generalTimeoutLabel) = .ok d →
      (c.forEach visit general timeout).wp (c.releasing id (s.cursors c.ref).close fails)
        (c.RefusedFor fails) none s

theorem Busy.refuses (h : c.Busy s)
    (hchannel : c.service.gateway.channel = some c.service.mode) : c.Refuses s where
  fetchNext := h.fetchNext
  next := h.next
  nextBatch := h.nextBatch
  hasNext := h.hasNext
  toList _ _ _ _ _ hid hd := h.wp_toList hchannel hid hd
  forEach visit _ _ _ _ _ hid hd := h.wp_forEach hchannel hid hd visit

end Cursor

end AqlClient
