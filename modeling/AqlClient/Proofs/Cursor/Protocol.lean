import AqlClient.Proofs.Cursor.Keeping

/-!
# The requests of a cursor

The requests that are sent for a cursor once it has been made are fetches, and then possibly a
release, after which there is nothing more (`Cursor.Obeys`). A fetch is sent only while the
latest batch announced more, nothing is left in the buffer and the cursor was never closed; the
release only if the latest batch announced more.

That is a statement about histories, and it is read off the rules of a watch
(`Watch.Lawful.obeys`). What a fetch and a release need is in the rules. What comes behind a
release follows from an invariant of the books: a cursor that is not live and owes nothing
stays so under the rules, and sends nothing (`Watch.Lawful.silent`).

`Database.cursor_obeys` says this of everything that a caller can do with a cursor while
nobody else uses it.
-/

namespace AqlClient

variable {α β : Type} {c : Cursor α}

/-! ### Silence -/

namespace Ledger

/-- The cursor is not live, and it owes no release. -/
structure Silent (L : Ledger) : Prop where
  phase : L.state.phase ≠ .live
  owed : L.owed = false

/-- The latest batch that has arrived announced more, given that the warnings of all batches can
be gone through. -/
def AnnouncedMore (L : Ledger) : Prop :=
  (∀ b ∈ L.arrived, b.Legible) → L.arrived.getLast?.map Batch.hasMore = some true

variable {L : Ledger} {mode : Mode}

/-- A change that fits leaves a silent cursor silent. -/
theorem Silent.note (h : L.Silent) {change : CursorChange} (hfit : L.Fits mode change) :
    (L.note change).Silent := by
  cases change with
  | received b => exact ⟨h.phase, rfl⟩
  | settled b =>
    -- nothing is settled on an exhausted cursor, so that this one is closed
    have hclosed : L.state.phase = .closed := by
      cases hp : L.state.phase with
      | live => exact absurd hp h.phase
      | exhausted => exact absurd hp hfit.2
      | closed => rfl
    refine ⟨?_, rfl⟩
    show (L.state.settled b).phase ≠ .live
    rw [CursorState.settled_of_closed hclosed]
    exact Phase.noConfusion
  | taken number => exact ⟨h.phase, rfl⟩
  | closed =>
    refine ⟨Phase.noConfusion, ?_⟩
    show L.state.toRelease.isSome = false
    rw [CursorState.toRelease_of_not_live h.phase]
    rfl
  | fetching on => exact ⟨h.phase, rfl⟩

/-- A closed cursor stays closed. -/
theorem note_closed (h : L.state.phase = .closed) (change : CursorChange) :
    (L.note change).state.phase = .closed := by
  cases change with
  | received b => exact h
  | settled b => exact CursorState.settled_of_closed h b
  | taken number => exact h
  | closed => rfl
  | fetching on => exact h

/-- What a live cursor has been told is that there is more. -/
theorem announcedMore_of_hasMore (hL : L.Sound mode) (hlevel : L.Level)
    (hmore : L.state.hasMore = true) : L.AnnouncedMore := by
  intro hlegible
  rw [← hlevel hlegible, hL.latest, hmore]

end Ledger

namespace Watch

variable {W : Watch c} {L : Ledger} {events : List Event}

/-- The requests of the cursor among some events. -/
def requests (W : Watch c) (events : List Event) : List Request :=
  (events.filterMap Event.request?).filter W.mine

theorem requests_cons_sent_mine {time : Int} {q : Request} (h : W.mine q = true) :
    W.requests (.sent time q :: events) = q :: W.requests events := by
  show ((q :: events.filterMap Event.request?).filter W.mine) = _
  rw [List.filter_cons_of_pos h]
  rfl

theorem requests_cons {e : Event} (h : ∀ q, e.request? = some q → ¬ W.mine q = true) :
    W.requests (e :: events) = W.requests events := by
  unfold requests
  rw [List.filterMap_cons]
  split
  · rfl
  · next q hq => rw [List.filter_cons_of_neg (h q hq)]

/-- A silent cursor sends nothing. -/
theorem Permits.silent {e : Event} (hL : L.Silent) (h : W.Permits L e) :
    ∀ q, e.request? = some q → ¬ W.mine q = true := by
  intro q hq hmine
  cases e with
  | sent time q' =>
    obtain rfl : q' = q := Option.some.inj hq
    obtain ⟨-, hmay⟩ | ⟨-, hmay⟩ := h hmine
    · exact hL.phase hmay.phase
    · exact Bool.noConfusion (hL.owed.symm.trans hmay.owed)
  | made ref => cases hq
  | cursor ref change => cases hq

theorem Lawful.silent (hL : L.Silent) (h : W.Lawful L events) : W.requests events = [] := by
  induction events generalizing L with
  | nil => rfl
  | cons e events ih =>
    rw [requests_cons (h.1.silent hL)]
    exact ih (h.1.invariant hL ⟨hL.phase, rfl⟩ fun _ _ hfit => hL.note hfit) h.2

/-- Once a release has been sent, the cursor is silent. -/
theorem silent_of_owed (hsound : L.Sound c.service.mode) (howed : L.owed = true) :
    Ledger.Silent { L with owed := false } := by
  refine ⟨?_, rfl⟩
  show L.state.phase ≠ .live
  rw [(hsound.owed howed).1]
  exact Phase.noConfusion

/-! ### What the rules say of the requests -/

/-- The requests of a cursor are fetches, and then a release if there is one. -/
theorem Lawful.word (hsound : L.Sound c.service.mode) (h : W.Lawful L events) :
    ∃ fetches, ∃ released : Bool, (W.requests events).map Request.method =
      List.replicate fetches "PUT" ++ if released then ["DELETE"] else [] := by
  induction events generalizing L with
  | nil => exact ⟨0, false, rfl⟩
  | cons e events ih =>
    have hrest := ih (h.1.sound hsound) h.2
    -- only the requests of the cursor itself are letters of the word
    by_cases hmine : ∃ time q, e = .sent time q ∧ W.mine q = true
    · obtain ⟨time, q, rfl, hmine⟩ := hmine
      rw [requests_cons_sent_mine hmine, List.map_cons]
      obtain ⟨hput, -⟩ | ⟨hdelete, hmay⟩ := h.1 hmine
      · obtain ⟨n, released, hword⟩ := hrest
        refine ⟨n + 1, released, ?_⟩
        rw [hword, hput, List.replicate_succ, List.cons_append]
      · -- the release ends the word, whatever follows
        refine ⟨0, true, ?_⟩
        have hsilent := Lawful.silent (silent_of_owed hsound hmay.owed) h.2
        rw [hsilent, hdelete]
        rfl
    · rw [requests_cons]
      · exact hrest
      · intro q hq hm
        cases e with
        | sent time q' =>
          obtain rfl : q' = q := Option.some.inj hq
          exact hmine ⟨time, q', rfl, hm⟩
        | made ref => cases hq
        | cursor ref change => cases hq

/-- A cursor that is closed stays closed under the rules. -/
theorem Lawful.closed (hL : L.state.phase = .closed) (h : W.Lawful L events) :
    (L.through c.ref events).state.phase = .closed :=
  h.invariant (P := fun L => L.state.phase = .closed) hL (fun _ hL => hL)
    fun _ change hL _ _ => Ledger.note_closed hL change

/-- A cursor that has been closed at any time is closed. -/
theorem Lawful.closed_of_mem (h : W.Lawful L events)
    (hmem : Event.cursor c.ref .closed ∈ events) :
    (L.through c.ref events).state.phase = .closed := by
  obtain ⟨before, after, rfl⟩ := List.append_of_mem hmem
  rw [lawful_append] at h
  rw [Ledger.through_append, Ledger.through_cons, Ledger.read_cursor_self]
  have hafter := h.2.2
  rw [Ledger.read_cursor_self] at hafter
  exact hafter.closed rfl

end Watch

/-! ### The protocol -/

namespace Cursor

/-- The requests among some events that concern a cursor. -/
def requests (c : Cursor α) (events : List Event) : List Request :=
  (events.filterMap Event.request?).filter c.concerns

/-- **The protocol of a cursor,** for the events behind the point of the history at which it was
made. -/
structure Obeys (c : Cursor α) (past events : List Event) : Prop where
  /-- The requests are fetches, and then a release if there is one. -/
  word : ∃ fetches, ∃ released : Bool, (c.requests events).map Request.method =
    List.replicate fetches "PUT" ++ if released then ["DELETE"] else []
  /-- A fetch is sent only while the latest batch announced more, the buffer is empty and the
  cursor was never closed. -/
  fetch : ∀ before time q after, events = before ++ .sent time q :: after →
    c.concerns q = true → q.method = "PUT" →
      (Ledger.of c.ref (past ++ before)).AnnouncedMore ∧
        (Ledger.of c.ref (past ++ before)).state.buffer = [] ∧
          Event.cursor c.ref .closed ∉ before
  /-- A release is sent only if the latest batch announced more, and nothing behind it. -/
  release : ∀ before time q after, events = before ++ .sent time q :: after →
    c.concerns q = true → q.method = "DELETE" →
      (Ledger.of c.ref (past ++ before)).AnnouncedMore ∧ c.requests after = []

end Cursor

namespace Watch

variable {W : Watch c} {L : Ledger} {events : List Event}

/-- **The rules of a watch contain the protocol.** -/
theorem Lawful.obeys (hmine : W.mine = c.concerns) (hopening : W.opening = Ledger.of c.ref W.past)
    (h : W.Lawful W.opening events) : c.Obeys W.past events where
  word := by
    have hword := h.word W.sound
    unfold requests at hword
    rw [hmine] at hword
    exact hword
  fetch before time q after hevents hq hput := by
    subst hevents
    rw [lawful_append] at h
    rw [Ledger.of_append, ← hopening]
    have hsound := h.1.sound W.sound
    rw [← hmine] at hq
    obtain ⟨-, hmay⟩ | ⟨hdelete, -⟩ := h.2.1 hq
    · refine ⟨Ledger.announcedMore_of_hasMore hsound hmay.level (hsound.more hmay.phase),
        hmay.buffer, fun hmem => ?_⟩
      -- a cursor that was closed is not live any more
      have hlive := hmay.phase
      rw [h.1.closed_of_mem hmem] at hlive
      cases hlive
    · rw [hput] at hdelete
      exact absurd hdelete (by decide)
  release before time q after hevents hq hdelete := by
    subst hevents
    rw [lawful_append] at h
    rw [Ledger.of_append, ← hopening]
    have hsound := h.1.sound W.sound
    rw [← hmine] at hq
    obtain ⟨hput, -⟩ | ⟨-, hmay⟩ := h.2.1 hq
    · rw [hdelete] at hput
      exact absurd hput (by decide)
    · refine ⟨Ledger.announcedMore_of_hasMore hsound hmay.level (hsound.owed hmay.owed).2, ?_⟩
      have hsilent := Lawful.silent (silent_of_owed hsound hmay.owed) h.2.2
      unfold requests at hsilent
      rw [hmine] at hsilent
      exact hsilent

end Watch

/-! ### A cursor on its own -/

namespace Cursor

/-- Whatever a caller does with a cursor on its own keeps the watch. -/
theorem Client.run_quiet {p : Program β} (hp : c.Client p) {W : Watch c} {w : Bool} {s : Scene}
    (h : W.Quiet w s) (hW : W.Free) (hmine : W.mine = c.concerns)
    (hkept : ∀ slot, W.kept slot = none) : W.Quiet w (p.run s).2 :=
  (Program.wp_alone p).1 ((Watch.hosts_alone W).keeps_client hW
    (fun _ hq => by rw [← hmine]; exact hq) hkept hp h)

variable {first : Batch} {s₁ : Scene} {p : Program β}

/-- **A cursor on its own obeys its protocol,** whatever is done with it. -/
theorem Fresh.obeys (hfresh : c.Fresh first s₁) (hp : c.Client p) :
    ∃ events, (p.run s₁).2.history = s₁.history ++ events ∧ c.Obeys s₁.history events := by
  have hquiet := hp.run_quiet (hfresh.quiet c.concerns) (fun _ => trivial) rfl fun _ => rfl
  obtain ⟨L, hL, -, -⟩ := hquiet
  obtain ⟨events, hhistory, hlaw, -⟩ := hL.events
  exact ⟨events, hhistory, hlaw.obeys rfl hfresh.books.symm⟩

/-- Nothing is sent for a cursor from a scene on, whatever is done with it. -/
def SilentFrom (c : Cursor α) (s : Scene) : Prop :=
  ∀ {γ : Type} {p : Program γ}, c.Client p →
    ∃ events, (p.run s).2.history = s.history ++ events ∧ c.requests events = []

/-- **A cursor that is exhausted or closed sends nothing** any more. -/
theorem Fresh.silent (hfresh : c.Fresh first s₁) (hp : c.Client p)
    (hphase : ((p.run s₁).2.cursors c.ref).phase ≠ .live) : c.SilentFrom (p.run s₁).2 := by
  intro γ p' hp'
  have hquiet := hp.run_quiet (hfresh.quiet c.concerns) (fun _ => trivial) rfl fun _ => rfl
  obtain ⟨L, hL, hlevel, hf⟩ := hquiet
  -- what is owed before is not sent any more
  have hresumed := hL.resumed hL.sound.settleDebt rfl
  obtain ⟨L', hL', -, -⟩ :=
    hp'.run_quiet ⟨_, hresumed, hlevel, hf⟩ (fun _ => trivial) rfl fun _ => rfl
  obtain ⟨events, hhistory, hlaw, -⟩ := hL'.events
  refine ⟨events, hhistory, Watch.Lawful.silent ⟨?_, rfl⟩ hlaw⟩
  rw [hL.state] at hphase
  exact hphase

end Cursor

/-- **The requests for the cursor of a query** begin with the one that submits it. Those that
follow obey the protocol of the cursor, and once it is exhausted or closed nothing is sent for it
at all, whatever is called on it and how often. -/
theorem Database.cursor_obeys {d : Database} {q : Query} {mapper : Mapper α}
    {request timeout : Option Int} {s₀ s₁ : Scene}
    (hopen : (d.cursor q mapper request timeout).run s₀ = (.ok c, s₁)) {p : Program β}
    (hp : c.Client p) :
    (∃ time post first, post.method = "POST" ∧ c.concerns post = true ∧
      s₁.history = s₀.history ++ .sent time post :: Cursor.making c.ref first) ∧
    (∃ events, (p.run s₁).2.history = s₁.history ++ events ∧ c.Obeys s₁.history events) ∧
    (((p.run s₁).2.cursors c.ref).phase ≠ .live → c.SilentFrom (p.run s₁).2) := by
  obtain ⟨hservice, -, first, hfresh, time, body, hmaking⟩ := Database.cursor_opened hopen
  have hconcerns : c.concerns (d.gateway.requestFor
      (QueryService.submission q (d.session.limit request timeout)) body) = true := by
    unfold Cursor.concerns Cursor.shelf
    rw [hservice, List.isPrefixOf_iff_prefix]
    exact List.prefix_refl _
  exact ⟨⟨time, _, first, rfl, hconcerns, hmaking⟩, hfresh.obeys hp, hfresh.silent hp⟩

/-- All that is left of a cursor is read, in a block that closes the cursor behind itself. -/
theorem Database.cursor_obeys_specimen : ∃ c s₁,
    ((Database.specimen .blocking).cursor Query.specimen Mapper.raw none none).run
      Scene.specimen = (.ok c, s₁) ∧
    c.Client (c.closing (c.toList none none)) ∧
    (∃ time post first, post.method = "POST" ∧ c.concerns post = true ∧
      s₁.history = Scene.specimen.history ++ .sent time post :: Cursor.making c.ref first) ∧
    (∃ events, ((c.closing (c.toList none none)).run s₁).2.history = s₁.history ++ events ∧
      c.Obeys s₁.history events) ∧
    ((((c.closing (c.toList none none)).run s₁).2.cursors c.ref).phase ≠ .live →
      c.SilentFrom ((c.closing (c.toList none none)).run s₁).2) := by
  obtain ⟨c, hc⟩ := Option.isSome_iff_exists.1
    (show (Cursor.specimen? .blocking).1.toOption.isSome = true by decide +kernel)
  have hopen := Cursor.run_specimen hc
  have hclient : c.Client (c.closing (c.toList none none)) := .closing (.toList none none)
  exact ⟨c, _, hopen, hclient, cursor_obeys hopen hclient⟩

end AqlClient
