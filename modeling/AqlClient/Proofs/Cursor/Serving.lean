import AqlClient.Proofs.Cursor.Completeness
import AqlClient.Proofs.Cursor.Exit
import AqlClient.Proofs.Program.Answer

/-!
# Servers that serve

What a server has to do for a query to be read: it sends the batches of the results one after the
other, each but the last with the announcement of more (`Batch.Paged`, `Mapper.Serves`). What comes
behind an item that the mapper does not accept is of no concern, since nobody asks for it.

A cursor over the results of such a server is *stocked* (`Cursor.Stocked`): some items are in its
buffer, and the batches that are still to come stand in the script. A fetch moves the first of them
into the buffer (`Cursor.Stocked.wp_fetchNext`), and handing out takes items from there
(`Cursor.Stocked.take`). That no fetch fails also depends on the time: a deadline has to last over
all exchanges that are made (`Deadline.Lasts`).
-/

namespace AqlClient

variable {α β ω : Type} {c : Cursor α}

/-! ### Batches in a script -/

/-- The batch that an outcome carries, if it is a response and carries one. -/
def Outcome.batch? (o : Outcome) : Option Batch :=
  match o.playback with
  | .response status headers body =>
    ((Envelope.read (Response.ofParts status headers body) none).bind Batch.ofEnvelope).toOption
  | _ => none

/-- The envelope of a response does not depend on what the call is named in messages. -/
theorem Envelope.read_renamed {r : Response} {envelope : Entries} {call : Option String}
    (h : Envelope.read r call = .ok envelope) (name : Option String) :
    Envelope.read r name = .ok envelope :=
  Envelope.read_ok_iff.2 (Envelope.read_ok_iff.1 h)

/-- **An outcome brings a batch,** whatever the request for it is named in messages. -/
def Outcome.Brings (o : Outcome) (b : Batch) : Prop := o.batch? = some b

theorem Outcome.Brings.response {o : Outcome} {b : Batch} (h : o.Brings b) :
    ∃ status headers body envelope, o.playback = .response status headers body ∧
      (∀ call, Envelope.read (Response.ofParts status headers body) call = .ok envelope) ∧
      Batch.ofEnvelope envelope = .ok b := by
  have hcarried : o.batch? = some b := h
  unfold Outcome.batch? at hcarried
  split at hcarried
  case h_2 => cases hcarried
  case h_1 status headers body hplayback =>
    cases hread : Envelope.read (Response.ofParts status headers body) none with
    | error e =>
      rw [hread] at hcarried
      cases hcarried
    | ok envelope =>
      refine ⟨status, headers, body, envelope, hplayback, Envelope.read_renamed hread, ?_⟩
      rw [hread] at hcarried
      change (Batch.ofEnvelope envelope).toOption = some b at hcarried
      cases hbatch : Batch.ofEnvelope envelope with
      | error e =>
        rw [hbatch] at hcarried
        cases hcarried
      | ok b' =>
        rw [hbatch] at hcarried
        cases hcarried
        rfl

/-- **The batches of some results:** all but the last announce more, and what the server warns of
can be gone through. -/
def Batch.Paged : List Batch → Prop
  | [] => True
  | b :: rest => b.hasMore = !rest.isEmpty ∧ b.Legible ∧ Paged rest

namespace Mapper

/-- **A script serves some batches:** they come one after the other, for as long as the mapper
accepts the items. -/
def Serves (mapper : Mapper α) : List Batch → List Outcome → Prop
  | [], _ => True
  | b :: rest, script => ∃ o more, script = o :: more ∧ o.Brings b ∧
      (mapper.Accepts b.results → mapper.Serves rest more)

end Mapper

/-! ### Time -/

/-- **A deadline lasts:** it leaves some time for a request, however many exchanges are made
before. -/
def Deadline.Lasts (d : Deadline) (cap : Value) (s : Scene) : Prop :=
  ∀ number, ∃ limit, d.remaining (s.timeAfter number) cap (some requestTimeoutLabel) = .ok limit

/-! ### Exchanges that bring a batch -/

section Exchanges

variable {w : ω} {s : Scene} {o : Outcome} {b : Batch}

/-- A request whose outcome brings a batch gives the envelope of it. -/
theorem Gateway.wp_request_brings {g : Gateway} {mode : Mode} {call : Call} {body : Option String}
    (hchannel : g.channel = some mode) (hbody : call.payload.encodePayload = .ok body)
    (ho : (s.send (g.requestFor call body)).1 = o) (hbrings : o.Brings b) :
    (g.request mode call).wp .alone (fun r _ s' => s.Exchanged (g.requestFor call body) s' ∧
      s'.cursors = s.cursors ∧ s'.cursorCount = s.cursorCount ∧
      ∃ envelope, r = .ok envelope ∧ Batch.ofEnvelope envelope = .ok b) w s := by
  obtain ⟨status, headers, bytes, envelope, hplayback, hread, hbatch⟩ := hbrings.response
  have hreply : (s.play (g.requestFor call body)).1 =
      .ok (Response.ofParts status headers bytes) := by
    show (s.send (g.requestFor call body)).1.playback.reply _ = _
    rw [ho, hplayback]
    rfl
  refine Program.wp_mono (Gateway.wp_request_answer hchannel hbody) ?_
  rintro r w s' ⟨hr, hbehind⟩
  refine ⟨hbehind.exchanged, hbehind.cursors, hbehind.cursorCount, envelope, ?_, hbatch⟩
  rw [hr, hreply]
  exact hread _

namespace QueryService

variable {service : QueryService} {call : Call} {body : Option String}

/-- What comes of a call whose outcome brings a batch: the batch, and no cursor has changed. -/
structure Brought (service : QueryService) (call : Call) (body : Option String) (b : Batch)
    (s : Scene) (r : Except Failure Batch) (s' : Scene) : Prop where
  result : r = .ok b
  exchanged : s.Exchanged (service.gateway.requestFor call body) s'
  cursors : s'.cursors = s.cursors
  count : s'.cursorCount = s.cursorCount

variable (hchannel : service.gateway.channel = some service.mode)
  (ho : s.script.head? = some o) (hbrings : o.Brings b)

include hchannel ho hbrings

/-- A query or a fetch whose outcome brings a batch gives it. -/
theorem wp_readBatch_brings (hbody : call.payload.encodePayload = .ok body) (before after : String) :
    (do service.report before
        let envelope ← service.gateway.request service.mode call
        service.report after
        Program.ofExcept (Batch.ofEnvelope envelope)).wp .alone
      (fun r _ s' => service.Brought call body b s r s') w s := by
  rw [wp_report_bind]
  have hhead : ((s.record .info (before ++ service.mode.logEnding)).send
      (service.gateway.requestFor call body)).1 = o := by
    show s.script.headD _ = o
    rw [List.headD_eq_head?_getD, ho]
    rfl
  refine Program.wp_seq (Gateway.wp_request_brings hchannel hbody hhead hbrings) ?_ ?_
  · rintro envelope w s' ⟨h, hcursors, hcount, _, ⟨⟩, hbatch⟩
    rw [wp_report_bind]
    exact ⟨hbatch, ⟨h.script, h.time, h.journal, h.sent⟩, hcursors, hcount⟩
  · rintro e w s' ⟨-, -, -, envelope, he, -⟩
    cases he

theorem wp_fetch_brings (id : String) (limit : TimeLimit) :
    (service.fetch id limit).wp .alone
      (fun r _ s' => service.Brought (cursorCall "PUT" id limit) none b s r s') w s :=
  wp_readBatch_brings hchannel ho hbrings rfl _ _

theorem wp_submit_brings {query : Query} {limit : TimeLimit}
    (hbody : (Value.ofNamed query.payload).encodePayload = .ok body) :
    (service.submit query limit).wp .alone
      (fun r _ s' => service.Brought (submission query limit) body b s r s') w s :=
  wp_readBatch_brings hchannel ho hbrings hbody _ _

end QueryService

end Exchanges

/-! ### A specimen -/

/-- The reply to a query or to a fetch: two items, and there are more. -/
def Outcome.page : Outcome where
  playback := .response 200 [] ("\x7b\"result\":[1,2],\"hasMore\":true,\"id\":\"7\"\x7d".toList.map
    fun x => x.val.toUInt8)
  elapsed := 0
  gate := none

/-- The scene in which a server is about to serve three batches, one of them without items. -/
def Scene.served : Scene := Scene.start 0 [.page, .specimen, Cursor.lastBatch]

/-- Whether a batch comes without additional data and announces more, or not. -/
def Batch.isPlain (more : Bool) (b : Batch) : Bool := b.hasMore == more && b.extra.isNone

/-- Three batches are served. -/
theorem Scene.served_pages : ∃ first second third, Batch.Paged [first, second, third] ∧
    first.results.length = 2 ∧ second.results = [] ∧
    Mapper.raw.Serves [first, second, third] served.script := by
  have hcheck : (Outcome.page.batch?.any fun b => b.isPlain true && b.results.length == 2) = true ∧
      (Outcome.specimen.batch?.any fun b => b.isPlain true && b.results.isEmpty) = true ∧
      (Cursor.lastBatch.batch?.any fun b => b.isPlain false) = true := by decide +kernel
  simp only [Option.any_eq_true, Batch.isPlain, Bool.and_eq_true, beq_iff_eq,
    Option.isNone_iff_eq_none, List.isEmpty_iff] at hcheck
  obtain ⟨⟨first, hfirst, ⟨hmore, hextra⟩, htwo⟩, ⟨second, hsecond, ⟨hmore', hextra'⟩, hnone⟩,
    third, hthird, hlast, hextra''⟩ := hcheck
  have hlegible : ∀ {b : Batch}, b.extra = none → b.Legible := by
    intro b hb extra hextra
    rw [hb] at hextra
    cases hextra
  exact ⟨first, second, third, ⟨hmore, hlegible hextra, hmore', hlegible hextra', hlast,
    hlegible hextra'', trivial⟩, htwo, hnone,
    _, _, rfl, hfirst, fun _ => ⟨_, _, rfl, hsecond, fun _ => ⟨_, _, rfl, hthird, fun _ => trivial⟩⟩⟩

/-- The query of the specimens can be written. -/
theorem Query.specimen_written :
    ∃ body, (Value.ofNamed specimen.payload).encodePayload = .ok body := by
  have hcheck : (Value.ofNamed specimen.payload).encodePayload.toOption.isSome = true := by
    decide +kernel
  cases hbody : (Value.ofNamed specimen.payload).encodePayload with
  | ok body => exact ⟨body, rfl⟩
  | error e =>
    rw [hbody] at hcheck
    cases hcheck

/-! ### Stocked cursors -/

/-- What a cursor holds, how many items have passed through it, and which batches it has been told
of. -/
structure CursorState.Stocked (s : CursorState) (held : List Value) (passed : Nat)
    (rest : List Batch) : Prop where
  buffer : s.buffer = held
  consumed : s.consumed = passed
  idle : s.fetching = false
  phase : s.phase = if rest.isEmpty then .exhausted else .live
  more : s.hasMore = !rest.isEmpty
  named : rest ≠ [] → s.cursorId.isSome = true

namespace CursorState.Stocked

variable {s : CursorState} {held : List Value} {passed : Nat} {b : Batch} {rest : List Batch}

/-- A fetch is needed where nothing is held and a batch is still to come. -/
theorem needsFetch (h : s.Stocked held passed rest) :
    s.needsFetch = true ↔ held = [] ∧ rest ≠ [] := by
  rw [Cursor.needsFetch_iff, h.buffer, h.phase]
  cases rest with
  | nil => simp
  | cons b rest => simp

theorem taken (h : s.Stocked held passed rest) (number : Nat) :
    (s.taken number).Stocked (held.drop number) (passed + (held.take number).length) rest where
  buffer := by rw [← h.buffer]; rfl
  consumed := by rw [← h.buffer, ← h.consumed]; rfl
  idle := h.idle
  phase := h.phase
  more := h.more
  named := h.named

/-- A batch arrives where nothing is held. -/
theorem arrive (hbuffer : s.buffer = []) (hconsumed : s.consumed = passed)
    (hidle : s.fetching = false) (hopen : s.phase ≠ .closed) (hmore : b.hasMore = !rest.isEmpty)
    (hnamed : b.hasMore = true → b.cursorId.isSome = true) :
    ((s.received b).settled b).Stocked b.results passed rest where
  buffer := by
    show s.buffer ++ b.results = _
    rw [hbuffer, List.nil_append]
  consumed := hconsumed
  idle := hidle
  phase := by
    have hreceived : (s.received b).phase ≠ .closed := hopen
    rw [CursorState.settled_of_open hreceived, hmore]
    cases rest <;> rfl
  more := hmore
  named hrest := by
    show (b.cursorId.or s.cursorId).isSome = true
    rw [Option.isSome_or, hnamed ?_, Bool.true_or]
    rw [hmore]
    cases rest with
    | nil => exact absurd rfl hrest
    | cons b rest => rfl

end CursorState.Stocked

/-- A batch that an exchange brings names the cursor, if it announces more. -/
theorem Outcome.Brings.named {o : Outcome} {b : Batch} (h : o.Brings b) :
    b.hasMore = true → b.cursorId.isSome = true := by
  obtain ⟨_, _, _, envelope, -, -, hbatch⟩ := h.response
  exact Batch.isSome_of_hasMore hbatch

namespace Cursor

/-- **A stocked cursor:** it holds some items, and the batches that it has been told of are served
as long as the items are accepted. -/
structure Stocked (c : Cursor α) (held : List Value) (passed : Nat) (rest : List Batch)
    (s : Scene) : Prop where
  state : (s.cursors c.ref).Stocked held passed rest
  paged : Batch.Paged rest
  served : c.mapper.Accepts held → c.mapper.Serves rest s.script

variable {w : ω} {s s' : Scene} {b : Batch} {held : List Value} {passed : Nat} {rest : List Batch}

/-- Items that can be converted are handed out. -/
theorem Stocked.take (h : c.Stocked held passed rest s) {number : Nat} {items : List α}
    (hitems : c.mapper.convert passed (held.take number) = .ok items) :
    c.Stocked (held.drop number) (passed + (held.take number).length) rest
      (s.changeCursor c.ref (.taken number)) where
  state := by
    rw [Scene.changeCursor_cursors_self]
    exact h.state.taken number
  paged := h.paged
  served haccepts := by
    refine h.served ?_
    rw [← List.take_append_drop number held]
    intro item hitem
    obtain htaken | hleft := List.mem_append.1 hitem
    · exact Mapper.accepts_of_convert hitems item htaken
    · exact haccepts item hleft

/-- A fetch has been made, and nothing else has happened but to the cursor and to the log. -/
def Asked (c : Cursor α) (s s' : Scene) : Prop :=
  ∃ id limit, s.Exchanged (c.request "PUT" id limit none) s'

theorem Asked.change (h : c.Asked s s') (change : CursorChange) :
    c.Asked s (s'.changeCursor c.ref change) := by
  obtain ⟨id, limit, hexchanged⟩ := h
  exact ⟨id, limit, hexchanged.change c.ref change⟩

theorem Asked.still {s'' : Scene} (h : c.Asked s s') (h' : s'.Still s'') : c.Asked s s'' := by
  obtain ⟨id, limit, hexchanged⟩ := h
  exact ⟨id, limit, hexchanged.still h'⟩

theorem logless_stocked : Logless fun (_ : ω) s' => c.Stocked held passed rest s' ∧ c.Asked s s' := by
  rintro _ s' level text ⟨h, id, limit, hexchanged⟩
  exact ⟨⟨h.state, h.paged, h.served⟩, id, limit,
    hexchanged.script, hexchanged.time, hexchanged.journal, hexchanged.sent⟩

/-- A batch that can be settled arrives for certain. -/
theorem wp_ingest_legible {D : Discipline ω} {J : ω → Scene → Prop} (hJ : Logless J)
    (hb : b.Legible)
    (h : J w ((s.changeCursor c.ref (.received b)).changeCursor c.ref (.settled b))) :
    (c.ingest b).wp D (fun r w s' => r = .ok () ∧ J w s') w s := by
  have hI : Logless fun w s' => J w (s'.changeCursor c.ref (.settled b)) :=
    fun _ _ level text h => hJ level text h
  exact wp_ingest hI b h (fun _ _ h => ⟨rfl, h⟩) fun _ _ _ _ hillegible => absurd hb hillegible

section Fetching

variable (hchannel : c.service.gateway.channel = some c.service.mode)
  {deadline : Option Deadline} (hlasts : ∀ d, deadline = some d → d.Lasts c.requestLimit s)

include hchannel hlasts

/-- The exchange of a fetch brings what the next outcome does. -/
theorem wp_fetchBatch_brings {o : Outcome} (ho : s.script.head? = some o) (hbrings : o.Brings b)
    (hid : (s.cursors c.ref).cursorId.isSome = true) :
    (c.fetchBatch deadline).wp .alone (fun r _ s' => r = .ok b ∧ c.Asked s s' ∧
      s'.cursors = s.cursors) w s := by
  refine wp_fetchBatch_of ?_ ?_ fun id limit _ _ => ?_
  · intro hnone
    rw [hnone] at hid
    cases hid
  · -- there is some time left
    intro _ e _ he
    cases deadline with
    | none => cases he
    | some d =>
      obtain ⟨limit, hlimit⟩ := hlasts d rfl 0
      have hnow : s.timeAfter 0 = s.now := s.timeAfter_zero
      rw [hnow] at hlimit
      cases he.symm.trans hlimit
  · refine Program.wp_mono (QueryService.wp_fetch_brings hchannel ho hbrings id limit) ?_
    exact fun _ _ _ h => ⟨h.result, ⟨id, limit, h.exchanged⟩, h.cursors⟩

/-- **A fetch moves the next batch into the buffer** of a stocked cursor that holds nothing. -/
theorem Stocked.wp_fetchNext (h : c.Stocked [] passed (b :: rest) s) :
    (c.fetchNext deadline).wp .alone (fun r _ s' => r = .ok () ∧
      c.Stocked b.results passed rest s' ∧ c.Asked s s') w s := by
  obtain ⟨hstate, ⟨hmore, hlegible, hpaged⟩, hserved⟩ := h
  obtain ⟨o, script, hscript, hbrings, hserves⟩ := hserved fun _ hmem => nomatch hmem
  have ho : s.script.head? = some o := by rw [hscript]; rfl
  have hid : (s.cursors c.ref).cursorId.isSome = true := hstate.named (List.cons_ne_nil _ _)
  -- what comes behind the exchange is the same in both modes
  have hingest : ∀ {fetch : Program Batch}, fetch.wp .alone (fun r _ s' => r = .ok b ∧
      c.Asked s s' ∧ s'.cursors c.ref = s.cursors c.ref) w s →
      (fetch >>= c.ingest).wp .alone (fun r _ s' => r = .ok () ∧
        c.Stocked b.results passed rest s' ∧ c.Asked s s') w s := by
    intro fetch hfetch
    refine Program.wp_seq hfetch ?_ fun e _ _ h => nomatch h.1
    rintro _ w s₁ ⟨⟨⟩, hasked, hcursor⟩
    refine wp_ingest_legible logless_stocked hlegible ⟨⟨?_, hpaged, fun haccepts => ?_⟩,
      (hasked.change (.received b)).change (.settled b)⟩
    · rw [Scene.changeCursor_cursors_self, Scene.changeCursor_cursors_self, hcursor]
      have hlive : (s.cursors c.ref).phase = .live := hstate.phase
      refine .arrive hstate.buffer hstate.consumed hstate.idle ?_ hmore hbrings.named
      rw [hlive]
      exact Phase.noConfusion
    · obtain ⟨id, limit, hexchanged⟩ := hasked
      show c.mapper.Serves rest s₁.script
      rw [hexchanged.script, hscript]
      exact hserves haccepts
  refine wp_fetchNext_of (hingest ?_) (hingest ?_)
  · refine Program.wp_mono (wp_fetchBatch_brings hchannel hlasts ho hbrings hid) ?_
    exact fun _ _ _ h => ⟨h.1, h.2.1, congrFun h.2.2 c.ref⟩
  -- the exchange of an asynchronous cursor is made while it is marked
  · have hidle : ¬ (s.cursors c.ref).fetching = true := by
      rw [hstate.idle]
      exact Bool.false_ne_true
    rw [wp_fetchAlone, if_neg hidle]
    let marked := s.changeCursor c.ref (.fetching true)
    have hmarked : marked.cursors c.ref = (s.cursors c.ref).marked true :=
      s.changeCursor_cursors_self c.ref _
    refine Program.wp_mono (wp_fetchBatch_brings (s := marked) hchannel hlasts ho hbrings ?_) ?_
    · rw [hmarked]
      exact hid
    · rintro r w s' ⟨hr, ⟨id, limit, hexchanged⟩, hcursors⟩
      have hasked : c.Asked s s' := by
        refine ⟨id, limit, hexchanged.script, hexchanged.time, hexchanged.journal, ?_⟩
        rw [hexchanged.sent, Scene.changeCursor_sent]
      refine ⟨hr, hasked.change _, ?_⟩
      -- the mark is taken back, as it was before
      rw [Scene.changeCursor_cursors_self, hcursors, hmarked]
      show { s.cursors c.ref with fetching := false } = s.cursors c.ref
      rw [← hstate.idle]

end Fetching

/-- The whole buffer is converted and handed out, or nothing is. -/
theorem Stocked.wp_drain (h : c.Stocked held passed rest s) :
    c.drain.wp .alone (fun r _ s' => r = c.mapper.convert passed held ∧ s.Still s' ∧
      ∀ items, r = .ok items → c.Stocked [] (passed + held.length) rest s') w s := by
  rw [Cursor.wp_drain, wp_handOut, h.state.buffer, h.state.consumed, List.take_length]
  cases hitems : c.mapper.convert passed held with
  | error e => exact ⟨rfl, .refl s, fun _ he => nomatch he⟩
  | ok items =>
    rw [← List.take_length (l := held)] at hitems
    have htaken := h.take hitems
    rw [List.drop_length, List.take_length] at htaken
    exact ⟨rfl, .change (.refl s) c.ref _, fun _ _ => htaken⟩

/-! ### Making a stocked cursor -/

variable {service : QueryService} {mapper : Mapper α} {requestLimit overallLimit : Value}
  {first : Batch}

/-- **A cursor over the results of a server that serves them is stocked** with the first batch. -/
theorem wp_opened_stocked (hpaged : Batch.Paged (first :: rest))
    (hnamed : first.hasMore = true → first.cursorId.isSome = true)
    (hserved : mapper.Accepts first.results → mapper.Serves rest s.script) :
    (opened service mapper requestLimit overallLimit first).wp .alone (fun r _ s' =>
      ∃ ref, r = .ok ⟨ref, service, mapper, requestLimit, overallLimit⟩ ∧
        Stocked ⟨ref, service, mapper, requestLimit, overallLimit⟩ first.results 0 rest s' ∧
        s.Still s') w s := by
  obtain ⟨hmore, hlegible, hrest⟩ := hpaged
  let c : Cursor α := ⟨s.cursorCount, service, mapper, requestLimit, overallLimit⟩
  let J : ω → Scene → Prop := fun _ s' => c.Stocked first.results 0 rest s' ∧ s.Still s'
  have hJ : Logless J := fun _ s' _ _ h =>
    ⟨⟨h.1.state, h.1.paged, h.1.served⟩, h.2.script, h.2.now, h.2.journal, h.2.sent⟩
  unfold opened
  rw [Program.wp_view_bind, Program.wp_update_bind]
  let made := s.enact .cursorMade
  have hmade : s.Still made := by
    refine ⟨rfl, rfl, rfl, ?_⟩
    show (s.history ++ [_]).filterMap Event.request? = s.history.filterMap _
    rw [List.filterMap_append]
    exact List.append_nil _
  -- the batch arrives at a place that nothing has happened to yet
  have hfirst : J w ((made.changeCursor c.ref (.received first)).changeCursor c.ref
      (.settled first)) := by
    refine ⟨⟨?_, hrest, hserved⟩, (hmade.change c.ref _).change c.ref _⟩
    rw [Scene.changeCursor_cursors_self, Scene.changeCursor_cursors_self]
    show (((s.addCursor.cursors s.cursorCount).received first).settled first).Stocked _ _ _
    rw [Scene.addCursor_cursors_self]
    exact .arrive rfl rfl rfl Phase.noConfusion hmore hnamed
  refine Program.wp_seq (wp_ingest_legible hJ hlegible hfirst) ?_ fun e _ _ h => nomatch h.1
  exact fun _ w s' h => ⟨s.cursorCount, rfl, h.2⟩

end Cursor

namespace Database

/-- A query is submitted within a limit, and a cursor is made of the first batch. -/
def made (d : Database) (q : Query) (mapper : Mapper α) (limit : TimeLimit)
    (requestLimit overallLimit : Value) : Program (Cursor α) := do
  let first ← d.service.submit q limit
  Cursor.opened d.service mapper requestLimit overallLimit first

theorem cursor_eq (d : Database) (q : Query) (mapper : Mapper α) (request timeout : Option Int) :
    d.cursor q mapper request timeout = d.made q mapper (d.session.limit request timeout)
      (d.session.limit request timeout).request d.session.options.timeouts.general :=
  rfl

/-- **The cursor of a query** that a server serves is stocked. -/
theorem wp_made_stocked {d : Database} {q : Query} {mapper : Mapper α} {limit : TimeLimit}
    {requestLimit overallLimit : Value} {first : Batch} {rest : List Batch} {body : Option String}
    {w : ω} {s : Scene} (hbody : (Value.ofNamed q.payload).encodePayload = .ok body)
    (hpaged : Batch.Paged (first :: rest)) (hserved : mapper.Serves (first :: rest) s.script) :
    (d.made q mapper limit requestLimit overallLimit).wp .alone (fun r _ s' => ∃ c, r = .ok c ∧
      c.service = d.service ∧ c.mapper = mapper ∧ c.requestLimit = requestLimit ∧
      c.overallLimit = overallLimit ∧ c.Stocked first.results 0 rest s' ∧
      s.Exchanged (d.gateway.requestFor (QueryService.submission q limit) body) s') w s := by
  obtain ⟨o, script, hscript, hbrings, hserves⟩ := hserved
  have ho : s.script.head? = some o := by rw [hscript]; rfl
  unfold made
  refine Program.wp_seq
    (QueryService.wp_submit_brings rfl ho hbrings hbody) ?_ ?_
  · rintro b w s₁ ⟨⟨⟩, hexchanged, -, -⟩
    have hserved : mapper.Accepts first.results → mapper.Serves rest s₁.script := by
      rw [hexchanged.script, hscript]
      exact hserves
    refine Program.wp_mono (Cursor.wp_opened_stocked hpaged hbrings.named hserved) ?_
    rintro r w s₂ ⟨ref, hr, hstocked, hstill⟩
    exact ⟨_, hr, rfl, rfl, rfl, rfl, hstocked, hexchanged.still hstill⟩
  · exact fun e _ _ h => nomatch h.result

end Database

end AqlClient
