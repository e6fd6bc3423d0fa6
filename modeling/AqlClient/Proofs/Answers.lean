import AqlClient.Collection
import AqlClient.Proofs.Cursor.Fetching
import AqlClient.Proofs.Envelope

/-!
# Whatever a server answers

An operation that consists of a single request either gives something or fails with what is wrong
with the answer (`Readable`), whatever the status, the headers and the bytes of the body are: the
answer is a refusal, or it is malformed.

There are two ways around this, in which something turns out to be of the wrong type. Each item of a
list of collections is asked for information, and an item that is no object cannot be
(`Response.ListsOther`, `Database.collections_of_numbers`). The warnings of a query are gone
through, which some values do not allow (`Response.WarnsIllegibly`). There is no other way
(`Scene.answer_surfaces`).

Reading an answer is followed from the inside to the outside: what a parser makes of an envelope
(`ReadableBut`), what an operation makes of the answer to its only request (`Response.Yields`,
`Gateway.run_asked`), and then the operations one by one.
-/

namespace AqlClient

variable {α β ω : Type}

/-! ### Two ways around -/

/-- **A response lists something other than objects** in the place of a result. -/
def Response.ListsOther (r : Response) : Prop :=
  ∃ call envelope items item, Envelope.read r call = .ok envelope ∧
    envelope.get? "result" = some (.list items) ∧ item ∈ items ∧ item.kind ≠ .dict

/-- **A response brings a batch whose warnings cannot be gone through.** -/
def Response.WarnsIllegibly (r : Response) : Prop :=
  ∃ call envelope b, Envelope.read r call = .ok envelope ∧ Batch.ofEnvelope envelope = .ok b ∧
    ¬ b.Legible

/-- **What comes of reading an answer that there is a way around:** something is given, or the
failure tells of the answer, or something turns out to be of the wrong type, and only in a certain
case. -/
def ReadableBut (wrong : Prop) (r : Except Failure α) : Prop :=
  ∀ e, r = .error e → e.isAnswer = true ∨ e = .wrongType ∧ wrong

theorem Readable.but {r : Except Failure α} (h : Readable r) (wrong : Prop) : ReadableBut wrong r :=
  fun e he => .inl (h e he)

theorem Readable.of_but {r : Except Failure α} (h : ReadableBut False r) : Readable r :=
  fun e he => (h e he).elim id fun hend => hend.2.elim

namespace ReadableBut

variable {wrong wrong' : Prop}

theorem mono {r : Except Failure α} (h : ReadableBut wrong r) (hwrong : wrong → wrong') :
    ReadableBut wrong' r :=
  fun e he => (h e he).imp_right fun hend => ⟨hend.1, hwrong hend.2⟩

theorem bind {x : Except Failure α} {f : α → Except Failure β} (hx : ReadableBut wrong x)
    (hf : ∀ a, x = .ok a → ReadableBut wrong (f a)) : ReadableBut wrong (x >>= f) := by
  cases x with
  | ok a => exact hf a rfl
  | error e =>
    rintro _ ⟨⟩
    exact hx e rfl

end ReadableBut

/-- A name that has to be there is not found in what is no object. -/
theorem Info.requiredField_other {v : Value} (h : v.kind ≠ .dict) (subject name : String) :
    ∃ e, requiredField subject name v = .error e ∧ (e.isAnswer = true ∨ e = .wrongType) := by
  have hsearched : ∀ (inside : Bool) (source : Value), ∃ e,
      (if inside then .error .wrongType else .error (.malformed (.incomplete subject name source)) :
        Except Failure Value) = .error e ∧ (e.isAnswer = true ∨ e = .wrongType) := by
    intro inside source
    cases inside with
    | true => exact ⟨_, rfl, .inr rfl⟩
    | false => exact ⟨_, rfl, .inl rfl⟩
  cases v with
  | dict entries => exact absurd rfl h
  | list items => exact hsearched _ _
  | tuple items => exact hsearched _ _
  | str s => exact hsearched _ _
  | _ => exact ⟨_, rfl, .inr rfl⟩

/-- An item that is no object may be of the wrong type for what is looked for in it. -/
theorem CollectionInfo.readableBut_ofValue (item : Value) :
    ReadableBut (item.kind ≠ .dict) (ofValue item) := by
  by_cases hdict : item.kind = .dict
  · cases item with
    | dict entries => exact (readable_ofValue entries).but _
    | _ => cases hdict
  · -- the first name that is looked for decides
    obtain ⟨e, he, hkind⟩ := Info.requiredField_other hdict "collection info" "name"
    unfold ofValue
    rw [he]
    rintro _ ⟨⟩
    exact hkind.imp_right fun htype => ⟨htype, hdict⟩

/-- A list of items is as good as each of its items. -/
theorem readableBut_mapM {f : Value → Except Failure α} {wrong : Value → Prop}
    (hf : ∀ item, ReadableBut (wrong item) (f item)) (items : List Value) :
    ReadableBut (∃ item ∈ items, wrong item) (items.mapM f) := by
  -- on the items, the first one of which to fail decides
  induction items with
  | nil =>
    rw [List.mapM_nil]
    exact (Readable.ok []).but _
  | cons item rest ih =>
    have hfirst : wrong item → ∃ item' ∈ item :: rest, wrong item' :=
      fun h => ⟨item, List.mem_cons_self, h⟩
    have hlater : (∃ item' ∈ rest, wrong item') → ∃ item' ∈ item :: rest, wrong item' :=
      fun ⟨item', hmem, h⟩ => ⟨item', List.mem_cons_of_mem _ hmem, h⟩
    rw [List.mapM_cons]
    refine ((hf item).mono hfirst).bind fun a _ => ?_
    exact (ih.mono hlater).bind fun as _ => (Readable.ok _).but _

/-- A list in the place of a result. -/
theorem Entries.result_of_required {entries : Entries} {items : List Value}
    (h : entries.required "result" [.list] Value.list? = .ok items) :
    entries.get? "result" = some (.list items) := by
  unfold required optional at h
  cases hvalue : entries.get? "result" with
  | none =>
    rw [hvalue] at h
    cases h
  | some value =>
    rw [hvalue] at h
    cases value with
    | list items' =>
      cases h
      rfl
    | _ => cases h

/-- **The collections in an envelope,** unless one of the items in its list is no object. -/
theorem Database.readableBut_collectionsOf (envelope : Entries) (excludeSystem : Bool) :
    ReadableBut (∃ items item, envelope.get? "result" = some (.list items) ∧ item ∈ items ∧
      item.kind ≠ .dict) (collectionsOf envelope excludeSystem) := by
  unfold collectionsOf
  refine .bind ((envelope.readable_required _ _ _).but _) fun items hitems => ?_
  refine .bind ((readableBut_mapM CollectionInfo.readableBut_ofValue items).mono ?_)
    fun infos _ => (Readable.ok _).but _
  rintro ⟨item, hmem, hother⟩
  exact ⟨items, item, Entries.result_of_required hitems, hmem, hother⟩

/-- The names in an envelope. -/
theorem Session.readable_namesOf (envelope : Entries) : Readable (namesOf envelope) := by
  unfold namesOf
  refine .bind (envelope.readable_required _ _ _) fun items _ => ?_
  split
  · exact .ok _
  · exact .malformed _

/-! ### Operations -/

/-- The next request is answered by a response. -/
def Scene.Responds (s : Scene) (r : Response) : Prop := ∀ q, (s.play q).1 = .ok r

theorem Scene.responds_of_head {s : Scene} {o : Outcome} {status : Int} {headers : Headers}
    {body : List UInt8} (ho : s.script.head? = some o)
    (hresponse : o.playback = .response status headers body) :
    s.Responds (Response.ofParts status headers body) := by
  intro q
  show (s.script.headD .scriptEnd).playback.reply q = _
  rw [List.headD_eq_head?_getD, ho]
  show o.playback.reply q = _
  rw [hresponse]
  rfl

/-- A call fails where its payload cannot be written, before anything is sent. -/
theorem Gateway.run_request_unwritten {g : Gateway} {mode : Mode} {call : Call} {e : Failure}
    (hchannel : g.channel = some mode) (hbody : call.payload.encodePayload = .error e)
    (s : Scene) : (g.request mode call).run s = (.error e, s) := by
  have hexchange : (g.exchange mode call).run s = (.error e, s) := by
    unfold exchange
    rw [if_neg fun hne => hne hchannel, hbody]
    rfl
  unfold request
  rw [Program.run_bind, hexchange]

/-- **What comes of an answer** that is parsed in some way: what the parser makes of the envelope,
or a failure that tells of the answer. -/
def Response.Yields (r : Response) (parse : Entries → Except Failure α)
    (result : Except Failure α) : Prop :=
  (∃ call envelope, Envelope.read r call = .ok envelope ∧ result = parse envelope) ∨
    ∃ e, result = .error e ∧ e.isAnswer = true

/-- What is yielded is as good as the parser. -/
theorem Response.Yields.readableBut {r : Response} {parse : Entries → Except Failure α}
    {result : Except Failure α} {wrong : Prop} (h : r.Yields parse result)
    (hparse : ∀ call envelope, Envelope.read r call = .ok envelope →
      ReadableBut wrong (parse envelope)) : ReadableBut wrong result := by
  obtain ⟨call, envelope, hread, rfl⟩ | ⟨e, rfl, he⟩ := h
  · exact hparse call envelope hread
  · rintro _ ⟨⟩
    exact .inl he

/-- **What is asked for is what the answer yields.** -/
theorem Gateway.run_asked {s : Scene} {r : Response} (h : s.Responds r) {g : Gateway} {mode : Mode}
    (hchannel : g.channel = some mode) (before after : String) (call : Call)
    (parse : Entries → Except Failure α) :
    r.Yields parse ((g.asked mode before after call parse).run s).1 := by
  cases hbody : call.payload.encodePayload with
  | error e =>
    refine .inr ⟨e, ?_, call.payload.readable_encodePayload e hbody⟩
    unfold asked Program.record
    show ((g.request mode call >>= _).run (s.record .info before)).1 = _
    rw [Program.run_bind, run_request_unwritten hchannel hbody]
  | ok body =>
    have hasked := (Program.wp_alone _).1
      (wp_asked (w := ()) (s := s) hchannel hbody before after parse)
    rw [hasked.1, h]
    have hread := Envelope.readable_read r (some (g.callDescription call))
    show r.Yields parse ((Envelope.read r (some (g.callDescription call))).bind parse)
    cases henvelope : Envelope.read r (some (g.callDescription call)) with
    | ok envelope => exact .inl ⟨_, envelope, henvelope, rfl⟩
    | error e => exact .inr ⟨e, rfl, hread e henvelope⟩

/-- Two steps of reading are one. -/
theorem Program.ofExcept_bind (x : Except Failure α) (f : α → Except Failure β) :
    (ofExcept x >>= fun a => ofExcept (f a)) = ofExcept (x >>= f) := by
  cases x <;> rfl

/-! ### Sessions, databases, collections and cursors -/

/-- **The operations of a session** end well, or are told of their answers. -/
structure Session.Answered (session : Session) (s : Scene) : Prop where
  version : ∀ request timeout, Readable ((session.version request timeout).run s).1
  accessibleDatabases : ∀ request timeout,
    Readable ((session.accessibleDatabases request timeout).run s).1
  allDatabases : ∀ request timeout, Readable ((session.allDatabases request timeout).run s).1

/-- **The operations of a database** end well, or are told of their answers, but for what a list of
collections and the warnings of a query may turn out to be. -/
structure Database.Answered (d : Database) (s : Scene) (r : Response) : Prop where
  info : ∀ request timeout, Readable ((d.info request timeout).run s).1
  collections : ∀ excludeSystem request timeout,
    ReadableBut r.ListsOther ((d.collections excludeSystem request timeout).run s).1
  cursor : ∀ {γ : Type} (q : Query) (mapper : Mapper γ) request timeout,
    ReadableBut r.WarnsIllegibly ((d.cursor q mapper request timeout).run s).1

/-- **The operations of a collection** end well, or are told of their answers. -/
structure Collection.Answered (collection : Collection) (s : Scene) : Prop where
  info : ∀ request timeout, Readable ((collection.info request timeout).run s).1
  count : ∀ request timeout, Readable ((collection.count request timeout).run s).1

/-- **What a cursor is asked for** comes, or the failure tells of the answer, but for what the
warnings of a batch may turn out to be. -/
structure Cursor.Answered (c : Cursor α) (s : Scene) (r : Response) : Prop where
  close : Readable (c.close.run s).1
  nextBatch : c.mapper.Total → ReadableBut r.WarnsIllegibly (c.nextBatch.run s).1

/-- What a session gets from a resource and then parses. -/
theorem Session.get_asked (session : Session) (path : String) (request timeout : Option Int)
    (parse : Entries → Except Failure α) :
    (session.get path request timeout >>= fun envelope => Program.ofExcept (parse envelope)) =
      session.gateway.asked session.mode
        ("request GET " ++ Url.trimStart path ++ session.mode.logEnding)
        ("finished request GET " ++ Url.trimStart path ++ session.mode.logEnding)
        ⟨"GET", .null, some (Url.trimStart path), [], session.limit request timeout⟩ parse := by
  unfold get Session.request Gateway.asked report
  simp only [Program.bind_assoc]
  rfl

/-- **The warnings of a batch** that an answer brings. -/
theorem Response.readableBut_warned {r : Response} {b : Batch}
    (h : r.Yields Batch.ofEnvelope (.ok b)) : ReadableBut r.WarnsIllegibly b.warned := by
  intro e he
  obtain ⟨call, envelope, hread, hbatch⟩ | ⟨e', he', -⟩ := h
  · obtain ⟨-, hok⟩ | ⟨hlegible, hwrong⟩ := b.warned_eq
    · rw [hok] at he
      cases he
    · rw [hwrong] at he
      cases he
      exact .inr ⟨rfl, call, envelope, b, hread, hbatch.symm, hlegible⟩
  · cases he'

/-- Making a cursor fails only if the warnings of its first batch do. -/
theorem Cursor.run_opened {service : QueryService} {mapper : Mapper α}
    {requestLimit overallLimit : Value} {first : Batch} {s : Scene} {wrong : Prop}
    (h : ReadableBut wrong first.warned) :
    ReadableBut wrong
      ((Cursor.opened service mapper requestLimit overallLimit first).run s).1 := by
  refine (Program.wp_alone (Q := fun r _ _ => ReadableBut wrong r) (w := ()) _).1 ?_
  unfold opened
  rw [Program.wp_view_bind, Program.wp_update_bind]
  refine Program.wp_seq (wp_ingest_landed first) ?_ ?_
  · exact fun _ _ _ _ => (Readable.ok _).but _
  · rintro e _ _ ⟨hwarned, -⟩ _ ⟨⟩
    exact h e hwarned.symm

section Operations

variable {s : Scene} {r : Response} (h : s.Responds r)

include h

theorem Session.answered (session : Session) : session.Answered s := by
  have hget : ∀ (path : String) (request timeout : Option Int) {γ : Type}
      {parse : Entries → Except Failure γ}, (∀ envelope, Readable (parse envelope)) →
      Readable ((session.get path request timeout >>= fun envelope =>
        Program.ofExcept (parse envelope)).run s).1 := by
    intro path request timeout γ parse hparse
    rw [get_asked]
    exact .of_but ((Gateway.run_asked h rfl _ _ _ parse).readableBut
      fun _ envelope _ => (hparse envelope).but False)
  exact ⟨fun _ _ => hget _ _ _ ServerVersion.readable_ofValue,
    fun _ _ => hget _ _ _ readable_namesOf, fun _ _ => hget _ _ _ readable_namesOf⟩

/-- What a database gets from a resource and then parses. -/
theorem Database.run_get (d : Database) (before after path : String) (params : Entries)
    (request timeout : Option Int) {parse : Entries → Except Failure α} {wrong : Prop}
    (hparse : ∀ call envelope, Envelope.read r call = .ok envelope →
      ReadableBut wrong (parse envelope)) :
    ReadableBut wrong ((do
      d.session.report before
      let envelope ← d.get path params request timeout
      d.session.report after
      Program.ofExcept (parse envelope) : Program α).run s).1 :=
  (Gateway.run_asked h (show d.gateway.channel = some d.session.mode from rfl) _ _ _
    parse).readableBut hparse

theorem Collection.answered (collection : Collection) : collection.Answered s where
  info request timeout := .of_but (collection.database.run_get h _ _ _ _ request timeout
    fun _ envelope _ => (CollectionInfo.readable_ofValue envelope).but False)
  count request timeout := .of_but (collection.database.run_get h _ _ _ _ request timeout
    fun _ envelope _ => (envelope.readable_required _ _ _).but False)

/-- A query is submitted, and a cursor made of its first batch. -/
theorem Database.run_cursor (d : Database) (q : Query) (mapper : Mapper α)
    (request timeout : Option Int) :
    ReadableBut r.WarnsIllegibly ((d.cursor q mapper request timeout).run s).1 := by
  have hsubmitted : r.Yields Batch.ofEnvelope
      ((d.service.submit q (d.session.limit request timeout)).run s).1 :=
    Gateway.run_asked h (g := d.gateway) rfl _ _ _ Batch.ofEnvelope
  unfold cursor
  rw [Program.run_bind]
  split
  case h_1 first s' hsubmit =>
    rw [hsubmit] at hsubmitted
    exact Cursor.run_opened (Response.readableBut_warned hsubmitted)
  case h_2 e s' hsubmit =>
    rw [hsubmit] at hsubmitted
    have hfailed : Readable (.error e : Except Failure Batch) := .of_but
      (hsubmitted.readableBut fun _ envelope _ => (Batch.readable_ofEnvelope envelope).but False)
    exact hfailed.ofError.but _

theorem Database.answered (d : Database) : d.Answered s r where
  info request timeout := by
    unfold info
    simp only [Program.ofExcept_bind]
    refine .of_but (d.run_get h _ _ _ _ request timeout fun _ envelope _ => ?_)
    refine Readable.but (.bind (envelope.readable_required _ _ _) fun fields _ => ?_) False
    exact DatabaseInfo.readable_ofValue fields
  collections excludeSystem request timeout :=
    d.run_get h _ _ _ _ request timeout fun call envelope hread =>
      (readableBut_collectionsOf envelope excludeSystem).mono
        fun ⟨items, item, hresult, hmem, hother⟩ =>
          ⟨call, envelope, items, item, hread, hresult, hmem, hother⟩
  cursor q mapper request timeout := d.run_cursor h q mapper request timeout

namespace Cursor

variable {c : Cursor α} (hchannel : c.service.gateway.channel = some c.service.mode)

include hchannel

/-- A release ends well, or is told of its answer. -/
theorem run_close : Readable (c.close.run s).1 := by
  refine (Program.wp_alone (Q := fun result _ _ => Readable result) (w := ()) _).1 ?_
  unfold close
  rw [wp_look, wp_update]
  split
  · exact .ok ()
  case h_2 id _ =>
    refine Program.wp_mono (QueryService.wp_release_answer hchannel) ?_
    rintro result _ _ ⟨hresult, -⟩ e he
    -- the closing has no part in the answer
    have hread : Envelope.read r _ = .error e := (congrArg (c.service.gateway.reading
      (QueryService.cursorCall "DELETE" id c.plainLimit)) (h _)).symm.trans (hresult e he)
    exact Envelope.readable_read r _ e hread

/-- A fetch ends well, or is told of its answer, or the warnings that it brings cannot be gone
through. -/
theorem wp_fetchNext_answered {w : ω} (hprepared : (s.cursors c.ref).Prepared)
    (hneeds : (s.cursors c.ref).needsFetch = true) :
    (c.fetchNext none).wp .alone (fun result _ _ => ReadableBut r.WarnsIllegibly result) w s := by
  obtain ⟨id, hid⟩ := Option.isSome_iff_exists.1 (hprepared.named (needsFetch_iff.1 hneeds).2)
  refine Program.wp_mono
    (wp_fetchNext_answer hchannel (show c.limitAt none s.now = .ok c.plainLimit from rfl) hprepared
      hid) ?_
  rintro result _ s' ⟨hfetched, -⟩
  let q := c.request "PUT" id c.plainLimit none
  have hresult : result = (c.fetched id c.plainLimit (s.send q).1 (s.cursors c.ref)).1 :=
    congrArg Prod.fst hfetched
  have hanswer : c.answer id c.plainLimit (s.send q).1 =
      (Envelope.read r _).bind Batch.ofEnvelope := congrArg
    (fun reply => (c.service.gateway.reading (QueryService.cursorCall "PUT" id c.plainLimit)
      reply).bind Batch.ofEnvelope) (h q)
  rw [hresult]
  unfold fetched
  cases hbatch : c.answer id c.plainLimit (s.send q).1 with
  | ok b =>
    rw [hanswer] at hbatch
    obtain ⟨envelope, hread, hb⟩ := bind_ok hbatch
    exact Response.readableBut_warned (.inl ⟨_, envelope, hread, hb.symm⟩)
  | error e =>
    have hreadable : Readable (c.answer id c.plainLimit (s.send q).1) := hanswer ▸
      (Envelope.readable_read r _).bind fun envelope _ => Batch.readable_ofEnvelope envelope
    rw [hbatch] at hreadable
    exact hreadable.ofError.but _

/-- The next batch comes as it is, if all items are accepted. -/
theorem run_nextBatch (htotal : c.mapper.Total) (hprepared : (s.cursors c.ref).Prepared) :
    ReadableBut r.WarnsIllegibly (c.nextBatch.run s).1 := by
  refine (Program.wp_alone (Q := fun result _ _ => ReadableBut r.WarnsIllegibly result)
    (w := ()) _).1 ?_
  have hdrain : ∀ (w : Unit) (s' : Scene), c.drain.wp .alone
      (fun result _ _ => ReadableBut r.WarnsIllegibly result) w s' := by
    intro w s'
    rw [wp_drain, wp_handOut]
    split
    · exact (Readable.ok _).but _
    case h_2 e he =>
      obtain ⟨as, has⟩ := Mapper.convert_of_accepts _ (htotal.accepts _)
      rw [has] at he
      cases he
  unfold nextBatch
  rw [wp_look]
  split
  -- only a fetch looks at the answer
  case isTrue hneeds =>
    refine Program.wp_seq (wp_fetchNext_answered h hchannel hprepared hneeds)
      (fun _ w s' _ => hdrain w s') ?_
    rintro e _ _ hfailed _ ⟨⟩
    exact hfailed e rfl
  case isFalse => exact hdrain () s

end Cursor

end Operations

/-! ### All operations -/

/-- **Whatever a server answers,** an operation that consists of the request that is answered gives
something or fails with what is wrong with the answer. This goes for the operations of sessions,
databases and collections, and for the cursor of a query, whatever a caller has done with it so far.
The only other failure is that something is of the wrong type, which is either an item in a list of
collections that is no object, or the warnings of a query. -/
theorem Scene.answer_surfaces {s : Scene} {o : Outcome} {status : Int} {headers : Headers}
    {body : List UInt8} (ho : s.script.head? = some o)
    (hresponse : o.playback = .response status headers body) :
    (∀ session : Session, session.Answered s) ∧
    (∀ collection : Collection, collection.Answered s) ∧
    (∀ d : Database, d.Answered s (Response.ofParts status headers body)) ∧
    ∀ {γ δ : Type} (d : Database) (q : Query) (mapper : Mapper γ) (request timeout : Option Int)
      (c : Cursor γ) (s₀ s₁ : Scene) (p : Program δ),
      (d.cursor q mapper request timeout).run s₀ = (.ok c, s₁) → c.Client p → (p.run s₁).2 = s →
        c.Answered s (Response.ofParts status headers body) := by
  have h := responds_of_head ho hresponse
  refine ⟨Session.answered h, Collection.answered h, Database.answered h, ?_⟩
  rintro γ δ d q mapper request timeout c s₀ s₁ p hopen hp rfl
  have hchannel := Database.channel_of_service (Database.cursor_opened hopen).1
  exact ⟨c.run_close h hchannel, fun htotal =>
    c.run_nextBatch h hchannel htotal (Database.cursor_prepared hopen hp)⟩

/-- The server answers the query and then a fetch. -/
theorem Scene.answer_surfaces_specimen : ∃ (c : Cursor Value) (s : Scene) (o : Outcome) (status : Int)
    (headers : Headers) (body : List UInt8),
    s.script.head? = some o ∧ o.playback = .response status headers body ∧
    ((Database.specimen .async).cursor Query.specimen Mapper.raw none none).run Scene.late =
      (.ok c, s) ∧
    ((pure () : Program Unit).run s).2 = s ∧ c.Client (pure () : Program Unit) ∧
    c.mapper.Total ∧
    (Database.specimen .async).session.Answered s ∧
    (⟨Database.specimen .async, "fish"⟩ : Collection).Answered s ∧
    (Database.specimen .async).Answered s (Response.ofParts status headers body) ∧
    c.Answered s (Response.ofParts status headers body) := by
  have hcheck : (Cursor.late?.1.toOption.any fun _ => Cursor.late?.2.script.length == 2) = true := by
    decide +kernel
  obtain ⟨c, hc, hlength⟩ := (Option.any_eq_true _ _).1 hcheck
  rw [beq_iff_eq] at hlength
  have hopen := Program.run_of_toOption hc
  have hscript : Cursor.late?.2.script = Scene.late.script.drop 1 := by
    have hdrop := List.suffix_iff_eq_drop.1 (Program.before_of_run hopen).script
    have htwo : Scene.late.script.length - Cursor.late?.2.script.length = 1 := by
      rw [hlength]
      rfl
    rw [← htwo]
    exact hdrop
  have hhead : Cursor.late?.2.script.head? = some _ := congrArg List.head? hscript
  have hidle : c.Client (pure () : Program Unit) := .apart (show c.Apart (pure ()) from trivial)
  have htotal : c.mapper.Total := by
    rw [(Database.cursor_opened hopen).2.1]
    exact Mapper.total_raw
  obtain ⟨hsession, hcollection, hdatabase, hcursor⟩ := Scene.answer_surfaces hhead rfl
  exact ⟨c, _, _, _, _, _, hhead, rfl, hopen, rfl, hidle, htotal, hsession _, hcollection _,
    hdatabase _, hcursor _ _ _ _ _ c _ _ _ hopen hidle rfl⟩

/-- Whether asking for the collections ends with a value of the wrong type. -/
def Database.stumbles (d : Database) (s : Scene) : Bool :=
  match ((d.collections false none none).run s).1 with
  | .error .wrongType => true
  | _ => false

/-- The scene in which a server lists a number in the place of a collection. -/
def Scene.ofNumbers : Scene :=
  Scene.start 0 [⟨.response 200 [] ("\x7b\"result\":[5]\x7d".toList.map
    fun x => x.val.toUInt8), 0, none⟩]

/-- **A list of numbers in the place of collections** is neither read nor reported. -/
theorem Database.collections_of_numbers : ∃ e : Failure,
    (((specimen .blocking).collections false none none).run Scene.ofNumbers).1 = .error e ∧
      e.isAnswer = false := by
  have hcheck : (specimen .blocking).stumbles Scene.ofNumbers = true := by decide +kernel
  unfold stumbles at hcheck
  split at hcheck
  case h_1 he => exact ⟨.wrongType, he, rfl⟩
  case h_2 => cases hcheck

end AqlClient
