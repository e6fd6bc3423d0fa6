import AqlClient.Proofs.Cursor.Opening
import AqlClient.Proofs.Deadline

/-!
# Payloads that can be encoded

A payload can be encoded if nothing in it stands in the way (`Value.Encodable`): all its numbers
have a literal, all its parts are of a kind that JSON knows, and all keys of its dictionaries are
of a kind that is written as a text, at whatever depth they stand (`Value.Part`, `Value.KeyIn`). The
writer goes through a value part by part, so that it comes to an end exactly then
(`Value.writable_iff`).

A payload that cannot be encoded is refused before anything is sent or logged of its request,
by whatever operation it is handed over (`Value.unencodable_unsent`). Such an operation comes to
its failure at once, without an exchange. It has to have a transport for its mode, since a call
without one does not come to its payload (`Gateway.request_unconnected`).

The encoder that the writer stands for gives up on containers that are nested too deep, in a way of
its own, so that this is about payloads of a limited depth (`Value.NestedWithin`).
-/

namespace AqlClient

variable {α : Type}

/-- The kinds of values that JSON has no text for. -/
def Kind.unwritten : List Kind := [.bytes, .unset, .options]

/-- The kinds of keys that are written as the name of a field. -/
def Kind.ofKeys : List Kind := [.str, .int, .float, .bool, .null]

namespace Value

/-! ### What a payload consists of -/

/-- **A value is a part of another one** if it is that value itself, or a part of one of its items,
or of what it holds under one of its keys. -/
inductive Part : Value → Value → Prop
  | self (v : Value) : Part v v
  | inList {part item : Value} {items : List Value} (hitem : item ∈ items) (h : Part part item) :
      Part part (.list items)
  | inTuple {part item : Value} {items : List Value} (hitem : item ∈ items) (h : Part part item) :
      Part part (.tuple items)
  | inDict {part : Value} {entry : Value × Value} {entries : Entries} (hentry : entry ∈ entries)
      (h : Part part entry.2) : Part part (.dict entries)

/-- **A key in a value** is a key of one of the dictionaries among its parts. -/
def KeyIn (key v : Value) : Prop :=
  ∃ entries : Entries, (Value.dict entries).Part v ∧ key ∈ entries.map Prod.fst

/-- The lists, tuples and dictionaries of a value are nested in a number of levels at most. -/
def NestedWithin : Nat → Value → Prop
  | 0, .list _ | 0, .tuple _ | 0, .dict _ => False
  | levels + 1, .list items => ∀ item ∈ items, NestedWithin levels item
  | levels + 1, .tuple items => ∀ item ∈ items, NestedWithin levels item
  | levels + 1, .dict entries => ∀ entry ∈ entries, NestedWithin levels entry.2
  | _, _ => True

/-- **Nothing stands in the way** of writing a value as JSON. -/
structure Encodable (payload : Value) : Prop where
  /-- No number in it is infinite or not a number. -/
  finite : ∀ x, (Value.float x).Part payload → x.isFinite = true
  /-- No number that is a key is infinite or not a number. -/
  finiteKeys : ∀ x, (Value.float x).KeyIn payload → x.isFinite = true
  /-- No part of it is a byte string, the marker of an unset setting or query options. -/
  kinds : ∀ part : Value, part.Part payload → part.kind ∉ Kind.unwritten
  /-- All keys are texts, numbers, flags or null. -/
  keyKinds : ∀ key : Value, key.KeyIn payload → key.kind ∈ Kind.ofKeys

theorem KeyIn.own {entries : Entries} {entry : Value × Value} (h : entry ∈ entries) :
    entry.1.KeyIn (.dict entries) :=
  ⟨entries, .self _, List.mem_map_of_mem h⟩

/-- Nothing stands in the way of a value whose parts are all among those of an encodable one. -/
theorem Encodable.within {v w : Value} (h : v.Encodable)
    (hparts : ∀ part : Value, part.Part w → part.Part v) : w.Encodable where
  finite x hx := h.finite x (hparts _ hx)
  finiteKeys := by
    rintro x ⟨entries, hpart, hkey⟩
    exact h.finiteKeys x ⟨entries, hparts _ hpart, hkey⟩
  kinds part hpart := h.kinds part (hparts _ hpart)
  keyKinds := by
    rintro key ⟨entries, hpart, hkey⟩
    exact h.keyKinds key ⟨entries, hparts _ hpart, hkey⟩

/-! ### What the writer comes to an end with -/

/-- The writer comes to an end with a value. -/
def Writable (v : Value) : Prop := ∃ cs, v.writeChars = .ok cs

/-- A key is written as the name of a field. -/
def NamesField (key : Value) : Prop := ∃ name, key.keyText = .ok name

/-- A step behind one that may fail does not change whether it fails. -/
theorem exists_map_ok {ε β γ : Type} {x : Except ε β} (f : β → γ) :
    (∃ c, x.map f = .ok c) ↔ ∃ b, x = .ok b := by
  cases x with
  | ok b => exact ⟨fun _ => ⟨b, rfl⟩, fun _ => ⟨f b, rfl⟩⟩
  | error e =>
    constructor
    · rintro ⟨_, h⟩
      cases h
    · rintro ⟨_, h⟩
      cases h

theorem exists_writeFloat {x : Binary64} : (∃ cs, writeFloat x = .ok cs) ↔ x.isFinite = true := by
  unfold writeFloat
  split
  case isTrue h => exact ⟨fun _ => h, fun _ => ⟨_, rfl⟩⟩
  case isFalse h =>
    constructor
    · rintro ⟨_, h⟩
      cases h
    · exact fun hfinite => absurd hfinite h

/-- **The keys that are names of fields** are of the right kind, and the numbers have a literal. -/
theorem namesField_iff {key : Value} :
    key.NamesField ↔ key.kind ∈ Kind.ofKeys ∧ ∀ x, key = .float x → x.isFinite = true := by
  unfold NamesField
  cases key with
  | float x =>
    have hkind : (Value.float x).kind ∈ Kind.ofKeys := by simp [kind, Kind.ofKeys]
    rw [keyText, exists_map_ok, exists_writeFloat]
    constructor
    · intro h
      refine ⟨hkind, ?_⟩
      rintro _ ⟨⟩
      exact h
    · rintro ⟨-, h⟩
      exact h x rfl
  | null | bool _ | int _ | str _ => simp [keyText, kind, Kind.ofKeys]
  | _ => simp [keyText, kind, Kind.ofKeys]

/-- The items of an array are written if every one of them is. -/
theorem exists_writeItems {items : List Value} :
    (∃ cs, writeItems items = .ok cs) ↔ ∀ item ∈ items, item.Writable := by
  induction items with
  | nil => exact ⟨fun _ => List.forall_mem_nil _, fun _ => ⟨[], rfl⟩⟩
  | cons v rest ih =>
    rw [List.forall_mem_cons, ← ih]
    cases rest with
    | nil => exact ⟨fun h => ⟨h, [], rfl⟩, And.left⟩
    | cons w rest =>
      unfold Writable
      rw [writeItems]
      · cases v.writeChars with
        | ok cs => simp [exists_map_ok]
        | error e => simp
      · exact List.cons_ne_nil w rest

/-- The fields of an object are written if every key names a field and every value is written. -/
theorem exists_writeEntries {entries : Entries} :
    (∃ cs, writeEntries entries = .ok cs) ↔
      ∀ entry ∈ entries, entry.1.NamesField ∧ entry.2.Writable := by
  induction entries with
  | nil => exact ⟨fun _ => List.forall_mem_nil _, fun _ => ⟨[], rfl⟩⟩
  | cons entry rest ih =>
    obtain ⟨key, v⟩ := entry
    rw [List.forall_mem_cons, ← ih]
    unfold NamesField Writable
    cases rest with
    | nil =>
      cases hkey : key.keyText with
      | ok name => simp [writeEntries, hkey, exists_map_ok]
      | error e => simp [writeEntries, hkey]
    | cons next rest =>
      rw [writeEntries]
      · cases key.keyText with
        | ok name =>
          cases v.writeChars with
          | ok cs => simp [exists_map_ok]
          | error e => simp
        | error e => simp
      · exact List.cons_ne_nil next rest

/-! ### Writable values are the encodable ones -/

theorem writable_float {x : Binary64} : (Value.float x).Writable ↔ x.isFinite = true := by
  unfold Writable
  rw [writeChars]
  exact exists_writeFloat

theorem writable_list {items : List Value} :
    (Value.list items).Writable ↔ ∀ item ∈ items, item.Writable := by
  unfold Writable
  rw [writeChars, exists_map_ok]
  exact exists_writeItems

theorem writable_tuple {items : List Value} :
    (Value.tuple items).Writable ↔ ∀ item ∈ items, item.Writable := by
  unfold Writable
  rw [writeChars, exists_map_ok]
  exact exists_writeItems

theorem writable_dict {entries : Entries} :
    (Value.dict entries).Writable ↔ ∀ entry ∈ entries, entry.1.NamesField ∧ entry.2.Writable := by
  unfold Writable
  rw [writeChars, exists_map_ok]
  exact exists_writeEntries

/-- What is written has no part of a kind that is not. -/
theorem Writable.kind_written {v : Value} (h : v.Writable) : v.kind ∉ Kind.unwritten := by
  obtain ⟨cs, h⟩ := h
  cases v with
  | bytes bs | unset | options o =>
    rw [writeChars] at h
    cases h
  | _ => simp [kind, Kind.unwritten]

/-- **All parts of a value that is written are written themselves.** -/
theorem Writable.part {part v : Value} (hpart : part.Part v) (h : v.Writable) : part.Writable := by
  induction hpart with
  | self => exact h
  | inList hitem _ ih => exact ih (writable_list.1 h _ hitem)
  | inTuple hitem _ ih => exact ih (writable_tuple.1 h _ hitem)
  | inDict hentry _ ih => exact ih (writable_dict.1 h _ hentry).2

theorem Writable.key {key v : Value} (hkey : key.KeyIn v) (h : v.Writable) : key.NamesField := by
  obtain ⟨entries, hpart, hmem⟩ := hkey
  obtain ⟨entry, hentry, rfl⟩ := List.mem_map.1 hmem
  exact (writable_dict.1 (h.part hpart) entry hentry).1

theorem Writable.encodable {v : Value} (h : v.Writable) : v.Encodable where
  finite _ hx := writable_float.1 (h.part hx)
  finiteKeys x hx := (namesField_iff.1 (h.key hx)).2 x rfl
  kinds _ hpart := (h.part hpart).kind_written
  keyKinds _ hkey := (namesField_iff.1 (h.key hkey)).1

/-- **A value in whose way nothing stands is written.** The induction goes down to the items and the
entries, in whose way nothing stands either. -/
theorem Encodable.writable {v : Value} (h : v.Encodable) : v.Writable := by
  induction hsize : sizeOf v using Nat.strongRecOn generalizing v with
  | _ n ih =>
    subst hsize
    cases v with
    | null | bool _ | int _ | str _ => exact ⟨_, rfl⟩
    | float x => exact writable_float.2 (h.finite x (.self _))
    | bytes _ | unset | options _ =>
      exact absurd (by simp [kind, Kind.unwritten]) (h.kinds _ (.self _))
    | list items =>
      refine writable_list.2 fun item hitem => ih _ ?_ (h.within fun _ => .inList hitem) rfl
      have hlt := List.sizeOf_lt_of_mem hitem
      simp only [list.sizeOf_spec]
      omega
    | tuple items =>
      refine writable_tuple.2 fun item hitem => ih _ ?_ (h.within fun _ => .inTuple hitem) rfl
      have hlt := List.sizeOf_lt_of_mem hitem
      simp only [tuple.sizeOf_spec]
      omega
    | dict entries =>
      refine writable_dict.2 fun entry hentry => ⟨?_, ?_⟩
      · refine namesField_iff.2 ⟨h.keyKinds _ (.own hentry), fun x hx => ?_⟩
        exact h.finiteKeys x (hx ▸ .own hentry)
      · refine ih _ ?_ (h.within fun _ => .inDict hentry) rfl
        have hlt := List.sizeOf_lt_of_mem hentry
        obtain ⟨key, held⟩ := entry
        simp only [dict.sizeOf_spec, Prod.mk.sizeOf_spec] at hlt ⊢
        omega

/-- **The writer comes to an end with the encodable values.** -/
theorem writable_iff {v : Value} : v.Writable ↔ v.Encodable :=
  ⟨Writable.encodable, Encodable.writable⟩

/-- A payload is encoded if nothing stands in its way. Otherwise the failure is about this. -/
theorem encodePayload_cases (payload : Value) :
    payload.Encodable ∧ (∃ body, payload.encodePayload = .ok body) ∨
      ¬ payload.Encodable ∧
        ∃ e, payload.encodePayload = .error (.malformed (.unencodable e)) := by
  rw [← writable_iff]
  unfold Writable
  cases payload with
  | null => exact .inl ⟨⟨_, rfl⟩, none, rfl⟩
  | _ =>
    unfold encodePayload write
    dsimp only
    cases writeChars _ with
    | ok cs => exact .inl ⟨⟨cs, rfl⟩, _, rfl⟩
    | error e =>
      refine .inr ⟨?_, e, rfl⟩
      rintro ⟨cs, h⟩
      cases h

/-- **What can be encoded.** -/
theorem encodePayload_ok_iff {payload : Value} :
    (∃ body, payload.encodePayload = .ok body) ↔ payload.Encodable := by
  obtain ⟨hpayload, hbody⟩ | ⟨hpayload, e, he⟩ := payload.encodePayload_cases
  · exact iff_of_true hbody hpayload
  · refine iff_of_false ?_ hpayload
    rintro ⟨body, hbody⟩
    rw [he] at hbody
    cases hbody

end Value

/-! ### Operations with a payload that cannot be encoded -/

section Refused

variable {mode : Mode} {c : Call} {e : Failure} {s : Scene}

/-- **A call is refused at once** where its payload cannot be encoded. -/
theorem Gateway.atOnce_request {g : Gateway} (hchannel : g.channel = some mode)
    (he : c.payload.encodePayload = .error e) :
    (g.request mode c).atOnce s = some (.error e, s) := by
  unfold request
  refine Program.atOnce_bind_error ?_
  unfold exchange
  rw [if_neg fun hne => hne hchannel, he]
  rfl

/-- A session only says that it is about to send the request. -/
theorem Session.atOnce_request {session : Session} {payload : Value}
    (he : payload.encodePayload = .error e) (method path : String) (params : Entries)
    (requestLimit timeout : Option Int) :
    (session.request method path payload params requestLimit timeout).atOnce s =
      some (.error e, s.record .info
        ("request " ++ method ++ " " ++ Url.trimStart path ++ session.mode.logEnding)) := by
  show (session.gateway.request session.mode ⟨method, payload, _, _, _⟩ >>= _).atOnce
    (s.record .info _) = _
  exact Program.atOnce_bind_error (Gateway.atOnce_request rfl he)

/-- A service only says that it is about to submit the query. -/
theorem QueryService.atOnce_submit {service : QueryService} {q : Query} (limit : TimeLimit)
    (hchannel : service.gateway.channel = some service.mode)
    (he : (Value.ofNamed q.payload).encodePayload = .error e) :
    (service.submit q limit).atOnce s = some (.error e,
      s.record .info ("submitting query to " ++ service.place ++ service.mode.logEnding)) := by
  show (service.gateway.request service.mode (submission q limit) >>= _).atOnce
    (s.record .info _) = _
  exact Program.atOnce_bind_error (Gateway.atOnce_request hchannel he)

end Refused

namespace Database

/-- **The limit under which a query is submitted** whose results are all read at once. -/
def submissionLimit (d : Database) (general request timeout : Option Int) (now : Int) :
    Except Failure TimeLimit := do
  let deadline ← Deadline.starting now (d.session.options.timeouts.overall general timeout)
    (some generalTimeoutLabel)
  deadline.remaining now ((request.map Value.int).getD d.session.options.timeouts.request)
    (some requestTimeoutLabel)

variable {d : Database} {general request timeout : Option Int}

/-- Limits that are not negative leave some time for the submission. -/
theorem submissionLimit_ok {now ms cap : Int}
    (hgeneral : (d.session.options.timeouts.overall general timeout).Limits ms)
    (hrequest : ((request.map Value.int).getD d.session.options.timeouts.request).Limits cap) :
    ∃ limit, d.submissionLimit general request timeout now = .ok limit := by
  obtain ⟨deadline, hdeadline⟩ := Deadline.starting_ok hgeneral now (some generalTimeoutLabel)
  have huntil := Deadline.until_starting hgeneral hdeadline
  unfold submissionLimit
  rw [hdeadline]
  obtain ⟨limit, hlimit, -⟩ | ⟨⟨hpos, hlate⟩, -⟩ :=
    huntil.remaining_cases now hrequest hgeneral.1 (some requestTimeoutLabel)
  · exact ⟨limit, hlimit⟩
  · omega

section Query

variable {q : Query} {mapper : Mapper α} {s : Scene} {e : Failure}

/-- A query whose results are left to a cursor is refused at once. -/
theorem atOnce_cursor (he : (Value.ofNamed q.payload).encodePayload = .error e) :
    (d.cursor q mapper request timeout).atOnce s = some (.error e, s.record .info
      ("submitting query to " ++ d.service.place ++ d.session.mode.logEnding)) :=
  Program.atOnce_bind_error (QueryService.atOnce_submit _ rfl he)

/-- A query that is read at once starts with its own limits and goes on with the submission. -/
theorem atOnce_query_begins (d : Database) (q : Query) (mapper : Mapper α)
    (general request timeout : Option Int) (s : Scene) : ∃ rest : Batch → Program (List α),
    (d.query q mapper general request timeout).atOnce s =
      (Program.ofExcept (d.submissionLimit general request timeout s.now) >>=
        fun limit => d.service.submit q limit >>= rest).atOnce s := by
  unfold query submissionLimit
  show ∃ rest, (Program.ofExcept (Deadline.starting s.now _ _) >>= _).atOnce s = _
  cases Deadline.starting s.now (d.session.options.timeouts.overall general timeout)
    (some generalTimeoutLabel) with
  | error e => exact ⟨fun _ => throw e, rfl⟩
  | ok deadline => exact ⟨_, rfl⟩

/-- A query whose own limits fail comes to that failure at once. -/
theorem atOnce_query_limit (hlimit : d.submissionLimit general request timeout s.now = .error e) :
    (d.query q mapper general request timeout).atOnce s = some (.error e, s) := by
  obtain ⟨rest, hquery⟩ := atOnce_query_begins d q mapper general request timeout s
  rw [hquery, hlimit]
  rfl

/-- **A query that is read at once is refused** if its own limits leave some time for it. -/
theorem atOnce_query {limit : TimeLimit}
    (hlimit : d.submissionLimit general request timeout s.now = .ok limit)
    (he : (Value.ofNamed q.payload).encodePayload = .error e) :
    (d.query q mapper general request timeout).atOnce s = some (.error e, s.record .info
      ("submitting query to " ++ d.service.place ++ d.session.mode.logEnding)) := by
  obtain ⟨rest, hquery⟩ := atOnce_query_begins d q mapper general request timeout s
  rw [hquery, hlimit]
  show (d.service.submit q limit >>= rest).atOnce s = _
  exact Program.atOnce_bind_error (QueryService.atOnce_submit limit rfl he)

end Query

end Database

/-! ### Nothing is sent -/

namespace Value

/-- **A payload is refused with a failure** by every operation that it can be handed over to. They
come to the failure at once, in a scene in which nothing has been sent, and nothing has been logged
but that a session or a service is about to send a request. -/
structure Refused (payload : Value) (e : Failure) : Prop where
  /-- A call through a gateway, blocking or asynchronous. -/
  call : ∀ (g : Gateway) (mode : Mode) (c : Call) (s : Scene), g.channel = some mode →
    c.payload = payload → (g.request mode c).atOnce s = some (.error e, s)
  /-- A request of a session. -/
  request : ∀ (session : Session) method path params requestLimit timeout (s : Scene),
    (session.request method path payload params requestLimit timeout).atOnce s = some (.error e,
      s.record .info ("request " ++ method ++ " " ++ Url.trimStart path ++ session.mode.logEnding))
  /-- A query whose results are left to a cursor. -/
  cursor : ∀ {α : Type} (d : Database) (q : Query) (mapper : Mapper α) request timeout (s : Scene),
    Value.ofNamed q.payload = payload →
    (d.cursor q mapper request timeout).atOnce s = some (.error e, s.record .info
      ("submitting query to " ++ d.service.place ++ d.session.mode.logEnding))
  /-- A query whose results are all read at once, if its limits leave some time for it. They do
  unless they are negative or no numbers (`Database.submissionLimit_ok`). -/
  query : ∀ {α : Type} (d : Database) (q : Query) (mapper : Mapper α) general request timeout
    (s : Scene) (limit : TimeLimit), Value.ofNamed q.payload = payload →
    d.submissionLimit general request timeout s.now = .ok limit →
    (d.query q mapper general request timeout).atOnce s = some (.error e, s.record .info
      ("submitting query to " ++ d.service.place ++ d.session.mode.logEnding))
  /-- If they do not, the query fails with that before its payload is looked at. -/
  late : ∀ {α : Type} (d : Database) (q : Query) (mapper : Mapper α) general request timeout
    (s : Scene) (e' : Failure), d.submissionLimit general request timeout s.now = .error e' →
    (d.query q mapper general request timeout).atOnce s = some (.error e', s)

theorem refused_of_encodePayload {payload : Value} {e : Failure}
    (he : payload.encodePayload = .error e) : payload.Refused e where
  call := by
    rintro g mode c s hchannel rfl
    exact Gateway.atOnce_request hchannel he
  request _ method path params requestLimit timeout _ :=
    Session.atOnce_request he method path params requestLimit timeout
  cursor := by
    rintro _ d q mapper request timeout s rfl
    exact Database.atOnce_cursor he
  query := by
    rintro _ d q mapper general request timeout s limit rfl hlimit
    exact Database.atOnce_query hlimit he
  late _ _ _ _ _ _ _ _ hlimit := Database.atOnce_query_limit hlimit

/-- The number of levels up to which payloads are considered. The interpreter of the encoder sets a
limit of its own, which is higher. -/
def levels : Nat := 150

/-- **What cannot be encoded is not sent.** A payload of a limited depth can be encoded if and only if
nothing stands in the way of writing it: no number in it, as a value or as a key, is infinite or not
a number, no part of it is a byte string, the marker of an unset setting or query options, and every
key at every depth is a text, a number, a flag or null. Any other payload is refused by every
operation that has a transport with a failure that names the payload, before anything is sent or
logged of the request. -/
theorem unencodable_unsent : ∀ payload : Value, payload.NestedWithin levels →
    ((∃ body, payload.encodePayload = .ok body) ↔ payload.Encodable) ∧
      (¬ payload.Encodable → ∃ reason : Malformed, reason.field = some "payload" ∧
        payload.encodePayload = .error (.malformed reason) ∧
        payload.Refused (.malformed reason)) := by
  intro payload _
  refine ⟨encodePayload_ok_iff, fun hpayload => ?_⟩
  obtain ⟨hencodable, -⟩ | ⟨-, e, he⟩ := payload.encodePayload_cases
  · exact absurd hencodable hpayload
  · exact ⟨.unencodable e, rfl, he, refused_of_encodePayload he⟩

/-- A query with a pair as a key, in a dictionary inside of a list. -/
def specimenQuery : Query :=
  { Query.specimen with
    bindVars := [("v", .list [.null, .dict [(.tuple [.int 1, .int 2], .bool true)]])] }

theorem unencodable_unsent_specimen :
    (ofNamed specimenQuery.payload).NestedWithin levels ∧
      ¬ (ofNamed specimenQuery.payload).Encodable ∧
      ∃ reason : Malformed, reason.field = some "payload" ∧
        ((Database.specimen .async).query specimenQuery Mapper.raw (some 5) none none).atOnce
            (Scene.start 0 []) =
          some (.error (.malformed reason), (Scene.start 0 []).record .info
            "submitting query to 'shop', async") := by
  let pairs : Value := .dict [(.tuple [.int 1, .int 2], .bool true)]
  have hpairs : pairs.Part (.dict [(.str "v", .list [.null, pairs])]) :=
    .inDict List.mem_cons_self (.inList (List.mem_cons_of_mem _ List.mem_cons_self) (.self _))
  have hkey : (tuple [.int 1, .int 2]).KeyIn (ofNamed specimenQuery.payload) :=
    ⟨_, .inDict (List.mem_cons_of_mem _ List.mem_cons_self) hpairs, List.mem_singleton_self _⟩
  have hnested : (ofNamed specimenQuery.payload).NestedWithin levels := by
    show NestedWithin 150 (.dict [(.str "query", .str "RETURN 1"),
      (.str "bindVars", .dict [(.str "v", .list [.null, pairs])])])
    simp [NestedWithin, pairs]
  have hpayload : ¬ (ofNamed specimenQuery.payload).Encodable := by
    intro h
    have hkind := h.keyKinds _ hkey
    simp [kind, Kind.ofKeys] at hkind
  obtain ⟨reason, hfield, -, hrefused⟩ := (unencodable_unsent _ hnested).2 hpayload
  have hgeneral : ((Database.specimen .async).session.options.timeouts.overall (some 5) none).Limits
      5 := .int (by decide)
  have hrequest : ((Option.map Value.int none).getD
      (Database.specimen .async).session.options.timeouts.request).Limits 0 := .null
  obtain ⟨limit, hlimit⟩ := Database.submissionLimit_ok hgeneral hrequest
  refine ⟨hnested, hpayload, reason, hfield, ?_⟩
  exact hrefused.query _ specimenQuery Mapper.raw _ _ _ (Scene.start 0 []) limit rfl hlimit

end Value

/-! ### Calls without a transport -/

/-- **A call without a transport for its mode fails first,** whatever its payload is. This one has a
byte string in it, and the failure is not about that. -/
theorem Gateway.request_unconnected :
    let g : Gateway := .make "http://server" "" [] [] [] none "1.0"
    let payload : Value := .dict [(.str "a", .bytes [0])]
    payload.NestedWithin Value.levels ∧ ¬ payload.Encodable ∧
      ∀ s, (g.request .blocking ⟨"POST", payload, none, [], .none⟩).atOnce s =
        some (.error (.refused (.noTransport g.description "blocking")), s) := by
  intro g payload
  refine ⟨?_, fun h => ?_, fun s => rfl⟩
  · show Value.NestedWithin 150 (.dict [(.str "a", .bytes [0])])
    simp [Value.NestedWithin]
  · have hkind := h.kinds (.bytes [0]) (.inDict List.mem_cons_self (.self _))
    simp [Value.kind, Kind.unwritten] at hkind

end AqlClient
