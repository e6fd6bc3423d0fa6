import AqlClient.Collection
import AqlClient.Proofs.Cursor.Addresses
import AqlClient.Proofs.Cursor.Exit
import AqlClient.Proofs.Cursor.Upkeep
import AqlClient.Proofs.Program.Stretches

/-!
# Licences for cursors

A program that works with cursors has a licence (`Licence`), which names the cursors that it is
given, the databases in which it may make some itself, and the requests that it sends besides.
`Licence.Covers` says which programs keep to a licence: they use the operations of the cursors and
of the databases in any order, on cursors that they are given and on those that they make.

What a licensed program does in each of its stretches is `Licence.rule`. Its requests for cursors go
to where they belong (`Licence.Sends`): that of a query to the place of a database that it serves,
and that of a fetch or a release to the place of the cursor, by the name that came last with a batch
of that cursor. Nothing happens to the cursors of others, nor to any session (`Licence.Spares`).

The argument follows a program through one stretch after the other (`Licence.Acting`,
`Licence.Covers.upholds`, `Licence.upheld_acting`); what it relies on where a reply comes back is
that the state of each cursor is what the history says of it (`Scene.Booked`).
-/

namespace AqlClient

variable {α β γ : Type}

/-! ### The books on all cursors -/

/-- The state of each cursor is what the history says of it. -/
def Scene.Booked (s : Scene) : Prop := ∀ ref, s.cursors ref = (Ledger.of ref s.history).state

/-- The name that a cursor is addressed by, as of the history. -/
def Scene.nameOf (s : Scene) (ref : Nat) : Option String := (Ledger.of ref s.history).latestName

namespace Scene

theorem booked_start (now : Int) (script : List Outcome) : (start now script).Booked :=
  fun _ => rfl

theorem Booked.nameOf {s : Scene} (h : s.Booked) (ref : Nat) :
    s.nameOf ref = (s.cursors ref).cursorId := by
  rw [h ref]
  exact (Ledger.names_of s.history).symm

theorem Booked.changeCursor {s : Scene} (h : s.Booked) (r : Nat) (change : CursorChange) :
    (s.changeCursor r change).Booked := by
  intro ref
  show _ = (Ledger.of ref (s.history ++ [.cursor r change])).state
  by_cases hr : ref = r
  · rw [hr, changeCursor_cursors_self, h r, Ledger.of_change, Ledger.note_state]
  · rw [changeCursor_cursors_of_ne _ _ _ hr, Ledger.of_append, Ledger.through_cons,
      Ledger.through_nil, Ledger.read_cursor_of_ne _ (Ne.symm hr)]
    exact h ref

theorem Booked.addCursor {s : Scene} (h : s.Booked) : s.addCursor.Booked := by
  intro ref
  show s.addCursor.cursors ref = (Ledger.of ref (s.history ++ [.made s.cursorCount])).state
  rw [Ledger.of_append, Ledger.through_cons, Ledger.through_nil]
  by_cases hr : ref = s.cursorCount
  · rw [hr, addCursor_cursors_self]
    show _ = (if s.cursorCount = s.cursorCount then Ledger.empty else _).state
    rw [if_pos rfl]
    rfl
  · rw [addCursor_cursors_of_ne _ hr, Ledger.read_made_of_ne (Ne.symm hr)]
    exact h ref

/-- **The books last,** whoever changes the scene. -/
theorem lasting_booked : Lasting Booked where
  enact := by
    intro s change h
    cases change with
    | cursor ref change => exact h.changeCursor ref change
    | cursorMade => exact h.addCursor
    | elapsed ms => exact h
    | logged level text => exact h
    | sessionMade => exact h
    | transportClosed => exact h
    | noted ref remark => exact h
  send := by
    intro s q h ref
    show s.cursors ref = (Ledger.of ref (s.history ++ [.sent s.now q])).state
    rw [Ledger.of_append]
    exact h ref

theorem nameOf_send (s : Scene) (q : Request) (ref : Nat) :
    (s.send q).2.nameOf ref = s.nameOf ref := by
  show (Ledger.of ref (s.history ++ [.sent s.now q])).latestName = _
  rw [Ledger.of_append]
  rfl

end Scene

/-! ### Programs without cursors -/

/-- A program all of whose steps and requests are of some kinds, whatever it looks at and whatever
comes back. -/
def Program.Within (allows : Change → Prop) (may : Request → Prop) : Program α → Prop
  | .done _ => True
  | .look next => ∀ s, Within allows may (next s)
  | .act change next => allows change ∧ Within allows may next
  | .exchange q next => may q ∧ ∀ reply, Within allows may (next reply)

namespace Program.Within

variable {allows : Change → Prop} {may : Request → Prop}

theorem bind {p : Program α} {f : α → Program β} (hp : p.Within allows may)
    (hf : ∀ a, (f a).Within allows may) : (p >>= f).Within allows may := by
  change (p.bind f).Within allows may
  induction p with
  | done r =>
    cases r with
    | ok a => exact hf a
    | error e => trivial
  | look next ih => exact fun s => ih s (hp s)
  | act change next ih => exact ⟨hp.1, ih hp.2⟩
  | exchange q next ih => exact ⟨hp.1, fun reply => ih reply (hp.2 reply)⟩

theorem attempt {p : Program α} (hp : p.Within allows may) : p.attempt.Within allows may := by
  induction p with
  | done r => trivial
  | look next ih => exact fun s => ih s (hp s)
  | act change next ih => exact ⟨hp.1, ih hp.2⟩
  | exchange q next ih => exact ⟨hp.1, fun reply => ih reply (hp.2 reply)⟩

theorem lines {ι : Type} (hlogged : ∀ level text, allows (.logged level text)) (level : LogLevel)
    (text : ι → String) (items : List ι) :
    (each items fun a => record level (text a)).Within allows may := by
  induction items with
  | nil => trivial
  | cons a rest ih => exact ⟨hlogged level (text a), ih⟩

end Program.Within

/-- A call logs lines and sends its request. -/
theorem Gateway.within_request {g : Gateway} {mode : Mode} {call : Call} {allows : Change → Prop}
    {may : Request → Prop} (hlogged : ∀ level text, allows (.logged level text))
    (hmay : ∀ body, may (g.requestFor call body)) : (g.request mode call).Within allows may := by
  have hexchange : (g.exchange mode call).Within allows may := by
    unfold exchange
    split
    · trivial
    · have hwritten : (Program.ofExcept call.payload.encodePayload).Within allows may := trivial
      refine hwritten.bind fun body => (Program.Within.lines hlogged _ _ _).bind fun _ => ?_
      have hsent : (Program.send (g.requestFor call body)).Within allows may :=
        ⟨hmay body, fun _ => trivial⟩
      exact hsent.bind fun response => (Program.Within.lines hlogged _ _ _).bind fun _ => trivial
  unfold request
  refine hexchange.bind fun response => ?_
  unfold readEnvelope
  split
  · trivial
  · exact (Program.Within.lines hlogged _ _ _).bind fun _ => trivial

namespace Change

/-- The steps that leave all cursors alone. -/
def sparesCursors : Change → Prop
  | .cursor _ _ | .cursorMade => False
  | _ => True

/-- The steps that leave all cursors, sessions and transports alone. -/
def sparesAll : Change → Prop
  | .cursor _ _ | .cursorMade | .sessionMade | .transportClosed => False
  | _ => True

end Change

/-! ### Licences -/

/-- **What a program may do:** the cursors that it is given, each with its database, the databases
in which it may make some, and the requests that it sends on its own account. -/
structure Licence where
  holds : Nat → Database → Prop
  serves : Database → Prop
  others : Request → Prop

namespace Licence

/-- A licence for one more cursor. -/
def plus (L : Licence) (ref : Nat) (d : Database) : Licence :=
  { L with holds := fun r e => L.holds r e ∨ r = ref ∧ e = d }

/-- Whether a cursor is one that may be used. -/
def Has (L : Licence) (c : Cursor α) : Prop := ∃ d, L.holds c.ref d ∧ c.service = d.service

/-- **The programs that keep to a licence.** -/
inductive Covers : Licence → {β : Type} → Program β → Prop
  | aside {L : Licence} {β : Type} {p : Program β} :
      p.Within Change.sparesAll L.others → Covers L p
  | bind {L : Licence} {β γ : Type} {p : Program β} {f : β → Program γ} :
      Covers L p → (∀ b, Covers L (f b)) → Covers L (p >>= f)
  | attempt {L : Licence} {β : Type} {p : Program β} : Covers L p → Covers L p.attempt
  | next {L : Licence} {α : Type} {c : Cursor α} : L.Has c → Covers L c.next?
  | nextBatch {L : Licence} {α : Type} {c : Cursor α} : L.Has c → Covers L c.nextBatch
  | hasNext {L : Licence} {α : Type} {c : Cursor α} : L.Has c → Covers L c.hasNext
  | close {L : Licence} {α : Type} {c : Cursor α} : L.Has c → Covers L c.close
  | toList {L : Licence} {α : Type} {c : Cursor α} (general timeout : Option Int) :
      L.Has c → Covers L (c.toList general timeout)
  | forEach {L : Licence} {α : Type} {c : Cursor α} {visit : α → Program Bool}
      (general timeout : Option Int) :
      L.Has c → (∀ a, Covers L (visit a)) → Covers L (c.forEach visit general timeout)
  | iterate {L : Licence} {α : Type} {c : Cursor α} {visit : α → Program Bool} :
      L.Has c → (∀ a, Covers L (visit a)) → Covers L (c.iterate visit)
  | closing {L : Licence} {α β : Type} {c : Cursor α} {body : Program β} :
      L.Has c → Covers L body → Covers L (c.closing body)
  | cursor {L : Licence} {α β : Type} {d : Database} {q : Query} {mapper : Mapper α}
      {k : Cursor α → Program β} (request timeout : Option Int) :
      L.serves d → (∀ c, c.service = d.service → Covers (L.plus c.ref d) (k c)) →
        Covers L (d.cursor q mapper request timeout >>= k)
  | query {L : Licence} {α : Type} {d : Database} {q : Query} {mapper : Mapper α}
      (general request timeout : Option Int) :
      L.serves d → Covers L (d.query q mapper general request timeout)

/-- Reading a collection is a query of its database. -/
theorem Covers.all {L : Licence} {c : Collection} {batchSize : Value} {mapper : Mapper α}
    {k : Cursor α → Program β} (request timeout : Option Int) (hd : L.serves c.database)
    (hk : ∀ cursor, cursor.service = c.database.service →
      Covers (L.plus cursor.ref c.database) (k cursor)) :
    L.Covers (c.all batchSize mapper request timeout >>= k) := by
  have hall : c.all batchSize mapper request timeout >>= k =
      Program.ofExcept (c.allQuery batchSize) >>= fun q =>
        c.database.cursor q mapper request timeout >>= k :=
    Program.bind_assoc _ _ _
  rw [hall]
  exact .bind (.aside trivial) fun q => .cursor request timeout hd hk

/-! ### What a licensed program does -/

/-- Whether a cursor of a database may be used by a program that has made some cursors: it has been
given to the program, or the program has made it behind the request that submitted its query. -/
def Uses (L : Licence) (owned : List (Nat × Option Request)) (ref : Nat) (d : Database) : Prop :=
  L.holds ref d ∨ ∃ q, (ref, some q) ∈ owned ∧ d.Submits q ∧ L.serves d

/-- **The requests of a licensed program.** -/
inductive Sends (L : Licence) (owned : List (Nat × Option Request)) (s : Scene) (q : Request) : Prop
  | other : L.others q → Sends L owned s q
  | query {d : Database} : L.serves d → d.Submits q → Sends L owned s q
  | cursor {ref : Nat} {d : Database} {id : String} :
      L.Uses owned ref d → s.nameOf ref = some id → d.Addresses id q → Sends L owned s q

/-- **What a licensed program leaves as it was** since its stretch began: the cursors that it has
neither been given nor made, the sessions, and the transports. -/
structure Spares (L : Licence) (o : Outset) (s : Scene) : Prop where
  cursors : ∀ ref < o.scene.cursorCount, (∀ d, ¬ L.holds ref d) → (∀ q, (ref, q) ∉ o.made) →
    s.cursors ref = o.scene.cursors ref
  count : o.scene.cursorCount ≤ s.cursorCount
  sessions : s.sessionCount = o.scene.sessionCount
  closes : s.closes = o.scene.closes

/-- **The rule for the stretches of a licensed program.** -/
def rule (L : Licence) : StretchRule := fun o s request =>
  L.Spares o s ∧ ∀ q, request = some q → L.Sends (o.owned s) s q

/-- The terms on which licensed programs run. -/
def terms (L : Licence) : Discipline Outset := .stretchwise Scene.Booked L.rule

/-- **A program with a licence is in the middle of a stretch.** It may have got a further licence
for cursors that it has made since it was started with the first one. -/
structure Acting (base L : Licence) (o : Outset) (s : Scene) : Prop where
  booked : s.Booked
  spares : base.Spares o s
  holds : ∀ {ref d}, L.holds ref d → base.Uses (o.owned s) ref d
  serves : ∀ {d}, L.serves d → base.serves d
  others : ∀ {q}, L.others q → base.others q

namespace Acting

variable {base L : Licence} {o : Outset} {s : Scene} {c : Cursor α} {d : Database}

theorem first (h : s.Booked) : L.Acting L (.first s) s :=
  ⟨h, ⟨fun _ _ _ _ => rfl, Nat.le_refl _, rfl, rfl⟩, .inl, id, id⟩

theorem logless : Logless (base.Acting L) :=
  fun _ _ _ _ h => ⟨h.booked, ⟨h.spares.cursors, h.spares.count, h.spares.sessions,
    h.spares.closes⟩, h.holds, h.serves, h.others⟩

/-- Steps that concern no cursor. -/
theorem enact (h : base.Acting L o s) {change : Change} (hchange : change.sparesAll) :
    base.Acting L o (s.enact change) := by
  have hspares := h.spares
  cases change with
  | elapsed ms =>
    exact ⟨h.booked, ⟨hspares.cursors, hspares.count, hspares.sessions, hspares.closes⟩, h.holds,
      h.serves, h.others⟩
  | logged level text => exact logless level text h
  | noted ref remark =>
    exact ⟨h.booked, ⟨hspares.cursors, hspares.count, hspares.sessions, hspares.closes⟩, h.holds,
      h.serves, h.others⟩
  | cursorMade => exact hchange.elim
  | cursor ref change => exact hchange.elim
  | sessionMade => exact hchange.elim
  | transportClosed => exact hchange.elim

/-- **A change of a cursor that may be used.** Those that are to be spared have other places. -/
theorem change (h : base.Acting L o s) {ref : Nat} (href : L.holds ref d) (change : CursorChange) :
    base.Acting L o (s.changeCursor ref change) := by
  refine ⟨h.booked.changeCursor ref change, ⟨fun r hr hheld hmade => ?_, h.spares.count,
    h.spares.sessions, h.spares.closes⟩, h.holds, h.serves, h.others⟩
  have hne : r ≠ ref := by
    rintro rfl
    obtain hbase | ⟨q, hq, -, -⟩ := h.holds href
    · exact hheld d hbase
    · obtain hold | hnew := List.mem_append.1 hq
      · exact hmade _ hold
      · -- what is made in this stretch was not there when it began
        obtain ⟨r', hr', heq⟩ := List.mem_map.1 hnew
        obtain rfl : r' = r := congrArg Prod.fst heq
        exact absurd (Scene.mem_madeSince.1 hr').1 (Nat.not_le_of_lt hr)
  rw [Scene.changeCursor_cursors_of_ne _ _ _ hne]
  exact h.spares.cursors r hr hheld hmade

/-- **A request ends a stretch,** and another one begins when its reply is back. -/
theorem exchange (h : base.Acting L o s) {q : Request} (hq : base.Sends (o.owned s) s q) :
    base.terms.may o s q ∧ ∀ o' reply s', base.terms.back o s q o' reply s' →
      base.Acting L o' s' ∧ o'.cause = some q := by
  constructor
  · refine ⟨⟨h.spares.cursors, h.spares.count, h.spares.sessions, h.spares.closes⟩, ?_⟩
    rintro _ ⟨⟩
    cases hq with
    | other ho => exact .other ho
    | query hd hsubmits => exact .query hd hsubmits
    | cursor huses hname haddresses =>
      exact .cursor huses ((s.nameOf_send q _).trans hname) haddresses
  · rintro o' reply s' ⟨hbooked, hcount, rfl⟩
    refine ⟨⟨hbooked, ⟨fun _ _ _ _ => rfl, Nat.le_refl _, rfl, rfl⟩, fun href => ?_, h.serves,
      h.others⟩, rfl⟩
    obtain hbase | ⟨q', hq', hrest⟩ := h.holds href
    · exact .inl hbase
    · exact .inr ⟨q', List.mem_append_left _ hq', hrest⟩

end Acting

/-! ### The operations of a cursor -/

section Operations

variable {base L : Licence} {o : Outset} {s : Scene} {c : Cursor α} {d : Database}

open Program (Kept Upholds)

/-- A licensed program knows the name of a cursor. -/
def Knows (base L : Licence) (c : Cursor α) (id : String) (o : Outset) (s : Scene) : Prop :=
  base.Acting L o s ∧ (s.cursors c.ref).cursorId = some id

theorem logless_knows (id : String) : Logless (Knows base L c id) :=
  fun _ _ level text h => ⟨Acting.logless level text h.1, h.2⟩

/-- **A call about a cursor that may be used** goes to the place of the cursor. -/
theorem carries_cursorCall (hd : L.holds c.ref d) (hservice : c.service = d.service)
    {method id : String} (hmethod : method = "PUT" ∨ method = "DELETE") (limit : TimeLimit) :
    c.service.gateway.CarriesBare base.terms (Knows base L c id) (base.Acting L)
      (QueryService.cursorCall method id limit) := by
  refine ⟨rfl, ?_⟩
  rintro o s ⟨h, hid⟩
  have haddresses := d.addresses_requestFor hmethod id limit
  rw [← hservice] at haddresses
  obtain ⟨hmay, hback⟩ := h.exchange
    (.cursor (h.holds hd) ((h.booked.nameOf c.ref).trans hid) haddresses)
  exact ⟨hmay, fun o' reply s' hreply => (hback o' reply s' hreply).1⟩

theorem acting_handOut (hd : L.holds c.ref d) (number : Nat) :
    (c.handOut number).Upholds base.terms (base.Acting L) fun _ => True := by
  intro o s h
  rw [Cursor.wp_handOut]
  split
  · exact Program.kept_ok (h.change hd _)
  · exact Program.kept_error h trivial

theorem acting_ingest (hd : L.holds c.ref d) (b : Batch) :
    (c.ingest b).Upholds base.terms (base.Acting L) fun _ => True := by
  intro o s h
  exact Cursor.wp_ingest Acting.logless b (h.change hd _)
    (fun o s h => Program.kept_ok (h.change hd _)) fun e o s h _ => Program.kept_error h trivial

theorem acting_fetchBatch (hd : L.holds c.ref d) (hservice : c.service = d.service)
    (deadline : Option Deadline) :
    (c.fetchBatch deadline).Upholds base.terms (base.Acting L) fun _ => True := by
  intro o s h
  refine Cursor.wp_fetchBatch_of (fun _ => Program.kept_error h trivial)
    (fun _ _ _ _ => Program.kept_error h trivial) fun id limit hid _ => ?_
  have hfetch := QueryService.wp_fetch_bare (logless_knows id) Acting.logless (fun _ _ h => h.1)
    (carries_cursorCall hd hservice (.inl rfl) limit) ⟨h, hid⟩
  exact Program.wp_mono hfetch fun r o s h => ⟨h, fun _ _ => trivial⟩

/-- **What the operations of a cursor are made of keeps to the licence.** -/
theorem upkeep (hd : L.holds c.ref d) (hservice : c.service = d.service) :
    c.Upkeep base.terms (base.Acting L) fun _ => True where
  logless := Acting.logless
  fetchNext deadline o s h _ := by
    have hbatch : (c.fetchBatch deadline).Upholds base.terms (base.Acting L) fun _ => True :=
      acting_fetchBatch hd hservice deadline
    refine Cursor.wp_fetchNext_of ?_ ?_
    · exact Program.wp_kept_seq (hbatch h) fun b _ _ h => acting_ingest hd b h
    · -- the flag of an asynchronous cursor is set around its exchange
      refine Program.wp_kept_seq ?_ fun b _ _ h => acting_ingest hd b h
      rw [Cursor.wp_fetchAlone]
      split
      · exact Program.kept_error h trivial
      · exact Program.wp_mono (hbatch (h.change hd _)) fun r o s h => ⟨h.1.change hd _, h.2⟩
  close := by
    intro o s h
    unfold Cursor.close
    rw [Cursor.wp_look, Cursor.wp_update]
    have hclosed := h.change hd CursorChange.closed
    cases hrelease : (s.cursors c.ref).toRelease with
    | none => exact Program.kept_ok hclosed
    | some id =>
      have hid : ((s.changeCursor c.ref .closed).cursors c.ref).cursorId = some id := by
        rw [Scene.changeCursor_cursors_self]
        exact (CursorState.toRelease_eq_some_iff.1 hrelease).2
      have hreleased := QueryService.wp_release_bare (logless_knows id) Acting.logless
        (fun _ _ h => h.1) (carries_cursorCall hd hservice (.inr rfl) c.plainLimit) ⟨hclosed, hid⟩
      exact Program.wp_mono hreleased fun r o s h => ⟨h, fun _ _ => trivial⟩
  closed := trivial
  wrongType := trivial

/-! ### The operations of a database -/

/-- A program has submitted a query in a database, and the reply is back. -/
def Submitted (base L : Licence) (d : Database) (o : Outset) (s : Scene) : Prop :=
  base.Acting L o s ∧ ∃ q, o.cause = some q ∧ d.Submits q

theorem logless_submitted : Logless (Submitted base L d) :=
  fun _ _ level text h => ⟨Acting.logless level text h.1, h.2⟩

theorem wp_submit (hd : L.serves d) (q : Query) (limit : TimeLimit) (h : base.Acting L o s) :
    (d.service.submit q limit).wp base.terms
      (Program.Reaches (base.Acting L) (Submitted base L d)) o s := by
  refine QueryService.wp_submit Acting.logless logless_submitted ?_ h
  intro body o s h
  have hsubmits := d.submits_requestFor q limit body
  obtain ⟨hmay, hback⟩ := h.exchange (.query (h.serves hd) hsubmits)
  refine ⟨hmay, fun o' reply s' hreply => ?_⟩
  obtain ⟨hacting, hcause⟩ := hback o' reply s' hreply
  exact ⟨hacting, _, hcause, hsubmits⟩

/-- What a program leads to that makes a cursor in a database. -/
def Made (base L : Licence) (d : Database) (r : Except Failure (Cursor α)) (o : Outset)
    (s : Scene) : Prop :=
  base.Acting L o s ∧
    ∀ c, r = .ok c → c.service = d.service ∧ base.Acting (L.plus c.ref d) o s

theorem Acting.of_plus {ref : Nat} (h : base.Acting (L.plus ref d) o s) :
    base.Acting L o s :=
  ⟨h.booked, h.spares, fun href => h.holds (.inl href), h.serves, h.others⟩

/-- **A cursor that is made behind a request may be used from then on.** -/
theorem wp_opened (hd : L.serves d) (mapper : Mapper α) (requestLimit overallLimit : Value)
    (first : Batch) (h : Submitted base L d o s) :
    (Cursor.opened d.service mapper requestLimit overallLimit first).wp base.terms
      (Made base L d) o s := by
  obtain ⟨h, q, hcause, hsubmits⟩ := h
  unfold Cursor.opened
  rw [Program.wp_view_bind, Program.wp_update_bind]
  let c : Cursor α := ⟨s.cursorCount, d.service, mapper, requestLimit, overallLimit⟩
  have hmade : ∀ r ∈ o.owned s, r ∈ o.owned s.addCursor := by
    intro r hr
    obtain hold | hnew := List.mem_append.1 hr
    · exact List.mem_append_left _ hold
    · obtain ⟨ref, href, rfl⟩ := List.mem_map.1 hnew
      refine List.mem_append_right _ (List.mem_map.2 ⟨ref, ?_, rfl⟩)
      obtain ⟨hle, hlt⟩ := Scene.mem_madeSince.1 href
      exact Scene.mem_madeSince.2 ⟨hle, Nat.lt_succ_of_lt hlt⟩
  have hself : (s.cursorCount, some q) ∈ o.owned s.addCursor := by
    refine List.mem_append_right _ (List.mem_map.2 ⟨s.cursorCount, ?_, by rw [hcause]⟩)
    exact Scene.mem_madeSince.2 ⟨h.spares.count, Nat.lt_succ_self _⟩
  have hacting : base.Acting (L.plus c.ref d) o s.addCursor := by
    refine ⟨h.booked.addCursor, ⟨fun r hr hheld hnot => ?_, Nat.le_succ_of_le h.spares.count,
      h.spares.sessions, h.spares.closes⟩, ?_, h.serves, h.others⟩
    · have hne : r ≠ s.cursorCount := Nat.ne_of_lt (Nat.lt_of_lt_of_le hr h.spares.count)
      rw [Scene.addCursor_cursors_of_ne _ hne]
      exact h.spares.cursors r hr hheld hnot
    · rintro ref e (hold | ⟨rfl, rfl⟩)
      · obtain hbase | ⟨q', hq', hrest⟩ := h.holds hold
        · exact .inl hbase
        · exact .inr ⟨q', hmade _ hq', hrest⟩
      · exact .inr ⟨q, hself, hsubmits, h.serves hd⟩
  have hheld : (L.plus c.ref d).holds c.ref d := .inr ⟨rfl, rfl⟩
  refine Program.wp_seq (acting_ingest hheld first hacting) ?_ ?_
  · intro _ o s h
    refine ⟨h.1.of_plus, ?_⟩
    rintro _ ⟨⟩
    exact ⟨rfl, h.1⟩
  · intro e o s h
    exact ⟨h.1.of_plus, fun c hc => nomatch hc⟩

end Operations

/-! ### Licensed programs -/

open Program (Kept Upholds)

/-- **Invariants that licensed programs uphold,** one for each licence: they are upheld by what
these programs are made of, and with a cursor that is made there is a licence for one more. -/
structure Upheld {ω : Type} (D : Discipline ω) (I : Licence → ω → Scene → Prop) : Prop where
  aside : ∀ {L : Licence} {β : Type} {p : Program β}, p.Within Change.sparesAll L.others →
    p.Upholds D (I L) fun _ => True
  upkeep : ∀ {L : Licence} {α : Type} {c : Cursor α}, L.Has c →
    c.Upkeep D (I L) fun _ => True
  handOut : ∀ {L : Licence} {α : Type} {c : Cursor α}, L.Has c → ∀ number,
    (c.handOut number).Upholds D (I L) fun _ => True
  made : ∀ {L : Licence} {α : Type} {d : Database} (q : Query) (mapper : Mapper α)
    (limit : TimeLimit) (requestLimit overallLimit : Value) {w : ω} {s : Scene}, L.serves d →
    I L w s → (d.service.submit q limit >>=
      Cursor.opened d.service mapper requestLimit overallLimit).wp D (fun r w s => I L w s ∧
        ∀ c, r = .ok c → c.service = d.service ∧ I (L.plus c.ref d) w s) w s
  of_plus : ∀ {L : Licence} {ref : Nat} {d : Database} {w : ω} {s : Scene},
    I (L.plus ref d) w s → I L w s

namespace Upheld

variable {ω : Type} {D : Discipline ω} {I : Licence → ω → Scene → Prop} {L : Licence}
  {d : Database} (h : Upheld D I)

include h

theorem cursor (hd : L.serves d) (q : Query) (mapper : Mapper α) (request timeout : Option Int)
    {k : Cursor α → Program β} (hk : ∀ c, c.service = d.service →
      (k c).Upholds D (I (L.plus c.ref d)) fun _ => True) :
    (d.cursor q mapper request timeout >>= k).Upholds D (I L) fun _ => True := by
  intro w s hs
  refine Program.wp_seq (h.made q mapper _ _ _ hd hs) (fun c w s hmade => ?_)
    fun e w s hmade => Program.kept_error hmade.1 trivial
  obtain ⟨hservice, hplus⟩ := hmade.2 c rfl
  exact Program.wp_mono (hk c hservice hplus) fun r w s hr => ⟨h.of_plus hr.1, hr.2⟩

theorem query (hd : L.serves d) (q : Query) (mapper : Mapper α)
    (general request timeout : Option Int) :
    (d.query q mapper general request timeout).Upholds D (I L) fun _ => True := by
  intro w s hs
  unfold Database.query
  dsimp only
  refine Program.wp_byClock (fun deadline _ => ?_) fun e _ => Program.kept_error hs trivial
  refine Program.wp_byClock (fun limit _ => ?_) fun e _ => Program.kept_error hs trivial
  rw [← Program.bind_assoc]
  refine Program.wp_seq (h.made q mapper limit _ _ hd hs) (fun c w s hmade => ?_)
    fun e w s hmade => Program.kept_error hmade.1 trivial
  -- the cursor is read and closed with the licence for it
  obtain ⟨hservice, hplus⟩ := hmade.2 c rfl
  have hhas : (L.plus c.ref d).Has c := ⟨d, .inr ⟨rfl, rfl⟩, hservice⟩
  have hupkeep : c.Upkeep D (I (L.plus c.ref d)) fun _ => True := h.upkeep hhas
  refine Program.wp_mono (hupkeep.closing ?_ hplus) fun r w s hr => ⟨h.of_plus hr.1, hr.2⟩
  refine Program.upholds_bind (Program.upholds_view _) fun time => ?_
  refine Program.upholds_bind (Program.upholds_ofExcept fun _ _ => trivial) fun rest => ?_
  exact hupkeep.toListWithin (h.handOut hhas) _

end Upheld

/-- **Whoever keeps to a licence upholds** what is upheld by the parts of licensed programs. -/
theorem Covers.upholds {ω : Type} {D : Discipline ω} {I : Licence → ω → Scene → Prop}
    (h : Upheld D I) {L : Licence} {p : Program β} (hp : L.Covers p) :
    p.Upholds D (I L) fun _ => True := by
  induction hp with
  | aside hp => exact h.aside hp
  | bind _ _ ihp ihf => exact Program.upholds_bind ihp ihf
  | attempt _ ih => exact Program.upholds_attempt ih
  | next hc => exact (h.upkeep hc).next (h.handOut hc)
  | nextBatch hc => exact (h.upkeep hc).nextBatch (h.handOut hc)
  | hasNext hc => exact (h.upkeep hc).hasNext
  | close hc => exact (h.upkeep hc).close
  | toList general timeout hc => exact (h.upkeep hc).toList (h.handOut hc) general timeout
  | forEach general timeout hc _ ih =>
    exact (h.upkeep hc).forEach ih (h.handOut hc) general timeout
  | iterate hc _ ih => exact (h.upkeep hc).iterate ih (h.handOut hc)
  | closing hc _ ih => exact (h.upkeep hc).closing ih
  | cursor request timeout hd _ ih => exact h.cursor hd _ _ request timeout ih
  | query general request timeout hd => exact h.query hd _ _ general request timeout

variable {base L : Licence}

theorem acting_within {p : Program β} (hp : p.Within Change.sparesAll L.others) :
    p.Upholds base.terms (base.Acting L) fun _ => True := by
  induction p with
  | done r => exact fun o s h => ⟨h, fun _ _ => trivial⟩
  | look next ih => exact fun o s h => ih s (hp s) h
  | act change next ih => exact fun o s h => ih hp.2 (h.enact hp.1)
  | exchange q next ih =>
    intro o s h
    obtain ⟨hmay, hback⟩ := h.exchange (.other (h.others hp.1))
    exact ⟨hmay, fun o' reply s' hreply => ih reply (hp.2 reply) (hback o' reply s' hreply).1⟩

/-- **Being in the middle of a stretch** with a licence is upheld. -/
theorem upheld_acting (base : Licence) : Upheld base.terms base.Acting where
  aside hp := acting_within hp
  upkeep hc := by
    obtain ⟨d, hd, hservice⟩ := hc
    exact upkeep hd hservice
  handOut hc number := by
    obtain ⟨d, hd, -⟩ := hc
    exact acting_handOut hd number
  made q mapper limit requestLimit overallLimit w s hd h := by
    refine Program.wp_seq (wp_submit hd q limit h) ?_ ?_
    · exact fun first o s h => wp_opened hd _ _ _ first h.ok
    · exact fun e o s h => ⟨h.or.elim id fun h => h.1, fun c hc => nomatch hc⟩
  of_plus h := h.of_plus

theorem Covers.abides {p : Program β} (hp : L.Covers p) {s : Scene} (hs : s.Booked) :
    p.Abides Scene.Booked L.rule (.first s) s :=
  Program.wp_mono (hp.upholds (upheld_acting L) (Acting.first hs)) fun _ _ _ h =>
    ⟨h.1.spares, fun _ hq => by cases hq⟩

end Licence

end AqlClient
