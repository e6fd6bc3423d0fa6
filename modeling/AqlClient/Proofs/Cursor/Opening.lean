import AqlClient.Database
import AqlClient.Proofs.Cursor.Client
import AqlClient.Proofs.Cursor.Watch
import AqlClient.Proofs.Program.Exchange

/-!
# Opening a cursor

A cursor is made with its first batch, at a place of its own. From then on the history says all
there is to know about it, whatever happened before and whatever was kept at that place
(`Cursor.Fresh`). A watch that begins where the cursor is made (`Watch.sinceMaking`) therefore
needs no assumption on the scene in which it was made.

`Cursor.fresh_of_opened` is about cursors that are made from a batch, and
`Database.cursor_opened` about those of a query, for which one request was sent before.
-/

namespace AqlClient

variable {α ω : Type} {c : Cursor α}

/-! ### The books on a new cursor -/

namespace Ledger

/-- The books on a cursor that has got its first batch. -/
def opened (first : Batch) : Ledger := (empty.note (.received first)).note (.settled first)

variable (first : Batch)

theorem opened_sound (mode : Mode) : (opened first).Sound mode where
  within := ⟨[], by simp [opened, note, empty, items, CursorState.initial, CursorState.after,
    CursorState.received, CursorState.settled]⟩
  whole _ := by simp [opened, note, empty, items, CursorState.initial, CursorState.after,
    CursorState.received, CursorState.settled]
  consumed := rfl
  batches := rfl
  fetching hf := Bool.noConfusion hf
  more hp := by
    cases hm : first.hasMore with
    | true => exact hm
    | false => simp [opened, note, empty, CursorState.initial, CursorState.after,
        CursorState.received, CursorState.settled, hm] at hp
  latest := rfl
  owed ho := Bool.noConfusion ho

theorem opened_level : (opened first).Level := fun _ => rfl

/-- A cursor that has got its first batch is not closed. -/
theorem opened_ne_closed : (opened first).state.phase ≠ .closed := by
  show (if first.hasMore then Phase.live else Phase.exhausted) ≠ Phase.closed
  split <;> exact Phase.noConfusion

/-- What is remembered of the making of a cursor gives the books on it, whatever was there
before. -/
theorem of_making (ref : Nat) (history : List Event) :
    of ref (history ++ [.made ref, .cursor ref (.received first), .cursor ref (.settled first)]) =
      opened first := by
  rw [of_append, through_cons, through_cons, through_cons, through_nil, read_cursor_self,
    read_cursor_self]
  -- the books begin anew where the place is given out
  show ((read ref _ (.made ref)).note _).note _ = _
  rw [show ∀ L : Ledger, L.read ref (.made ref) = empty from fun L => if_pos rfl]
  rfl

end Ledger

/-! ### The warnings of a batch -/

/-- What becomes of the warnings that came with a batch. -/
def Batch.warned (b : Batch) : Except Failure Unit :=
  match b.extra with
  | none => .ok ()
  | some extra => (Info.warnings extra).map fun _ => ()

/-- The warnings of a batch can be gone through, or they are of the wrong type. -/
theorem Batch.warned_eq (b : Batch) :
    b.Legible ∧ b.warned = .ok () ∨ ¬ b.Legible ∧ b.warned = .error .wrongType := by
  unfold warned
  cases hextra : b.extra with
  | none =>
    refine .inl ⟨fun extra he => ?_, rfl⟩
    rw [hextra] at he
    cases he
  | some extra =>
    dsimp only
    cases hw : Info.warnings extra with
    | ok warnings =>
      refine .inl ⟨fun extra' he => ?_, rfl⟩
      rw [hextra] at he
      cases he
      exact ⟨warnings, hw⟩
    | error e =>
      refine .inr ⟨fun hlegible => ?_, ?_⟩
      · obtain ⟨warnings, hok⟩ := hlegible extra hextra
        rw [hw] at hok
        cases hok
      · -- there is only one way in which going through them fails
        have hwrong : e = .wrongType := by
          unfold Info.warnings at hw
          dsimp only at hw
          split at hw
          · split at hw <;> cases hw
            rfl
          · cases hw
        rw [hwrong]
        rfl

theorem Batch.Legible.warned {b : Batch} (h : b.Legible) : b.warned = .ok () := by
  obtain ⟨-, hw⟩ | ⟨hnot, -⟩ := b.warned_eq
  · exact hw
  · exact absurd h hnot

/-- Going through the warnings fails in one way only. -/
theorem Batch.eq_wrongType_of_warned {b : Batch} {e : Failure} (h : b.warned = .error e) :
    e = .wrongType := by
  obtain ⟨-, hw⟩ | ⟨-, hw⟩ := b.warned_eq
  · rw [hw] at h
    cases h
  · rw [hw] at h
    cases h
    rfl

theorem Batch.illegible_of_warned {b : Batch} {e : Failure} (h : b.warned = .error e) :
    ¬ b.Legible := by
  intro hlegible
  rw [hlegible.warned] at h
  cases h

/-! ### Making a cursor -/

/-- A cursor that a database has made is reached over a channel of its own mode. -/
theorem Database.channel_of_service {d : Database} (h : c.service = d.service) :
    c.service.gateway.channel = some c.service.mode := by
  rw [h]
  rfl

namespace Cursor

/-- Reporting the warnings of a batch changes nothing but the log. -/
theorem wp_reportWarnings {D : Discipline ω} {I : ω → Scene → Prop} {w : ω} {s : Scene}
    (hI : Logless I) (b : Batch) (h : I w s) :
    (c.reportWarnings b).wp D (fun r w s' => r = b.warned ∧ I w s') w s := by
  unfold reportWarnings Batch.warned
  cases b.extra with
  | none => exact ⟨rfl, h⟩
  | some extra =>
    dsimp only
    rw [Program.wp_bind, Program.wp_ofExcept]
    cases Info.warnings extra with
    | error e => exact ⟨rfl, h⟩
    | ok warnings => exact Program.wp_lines hI _ _ _ h

/-- A batch arrives, and is settled unless its warnings cannot be gone through. -/
theorem wp_ingest {D : Discipline ω} {I : ω → Scene → Prop}
    {Q : Except Failure Unit → ω → Scene → Prop} {w : ω} {s : Scene} (hI : Logless I) (b : Batch)
    (h : I w (s.changeCursor c.ref (.received b)))
    (hok : ∀ w s, I w s → Q (.ok ()) w (s.changeCursor c.ref (.settled b)))
    (herror : ∀ e w s, I w s → ¬ b.Legible → Q (.error e) w s) : (c.ingest b).wp D Q w s := by
  unfold ingest
  rw [wp_update]
  refine Program.wp_seq (wp_reportWarnings hI b h) ?_ ?_
  · exact fun _ w s hreported => hok w s hreported.2
  · rintro e w s ⟨hwarned, hs⟩
    exact herror e w s hs (Batch.illegible_of_warned hwarned.symm)

/-- What is remembered of the making of a cursor. -/
def making (ref : Nat) (first : Batch) : List Event :=
  [.made ref, .cursor ref (.received first), .cursor ref (.settled first)]

/-- **A cursor that has just been made** with its first batch. -/
structure Fresh (c : Cursor α) (first : Batch) (s : Scene) : Prop where
  history : ∃ past, s.history = past ++ making c.ref first
  state : s.cursors c.ref = (Ledger.opened first).state
  placed : c.ref < s.cursorCount

end Cursor

/-- The watch over a cursor from its making on. Everything is allowed, and its requests are those
that concern it. -/
def Watch.sinceMaking (c : Cursor α) (mine : Request → Bool) (first : Batch) (past : List Event) :
    Watch c where
  mine := mine
  allows _ := True
  kept _ := none
  past := past
  opening := Ledger.opened first
  sound := Ledger.opened_sound first _

namespace Cursor

namespace Fresh

variable {first : Batch} {s : Scene}

/-- The history of a fresh cursor gives the books on it. -/
theorem books (h : c.Fresh first s) : Ledger.of c.ref s.history = Ledger.opened first := by
  obtain ⟨past, hpast⟩ := h.history
  rw [hpast]
  exact Ledger.of_making first c.ref past

/-- The watch over a fresh cursor begins. -/
theorem quiet (h : c.Fresh first s) (mine : Request → Bool) :
    (Watch.sinceMaking c mine first s.history).Quiet false s :=
  ⟨_, Watch.Course.start rfl h.state h.placed (fun _ _ hk => nomatch hk),
    Ledger.opened_level first, rfl⟩

end Fresh

variable {service : QueryService} {mapper : Mapper α} {requestLimit overallLimit : Value}
  {first : Batch}

/-- What making a cursor does to a scene. -/
theorem wp_opened {D : Discipline ω} {w : ω} {s : Scene} :
    (opened service mapper requestLimit overallLimit first).wp D (fun r _ s' => ∀ c, r = .ok c →
      c = ⟨s.cursorCount, service, mapper, requestLimit, overallLimit⟩ ∧
        s'.history = s.history ++ making c.ref first ∧ c.Fresh first s') w s := by
  unfold opened
  rw [Program.wp_view_bind, Program.wp_update_bind, Program.wp_bind]
  -- logging the warnings leaves everything as it was when the batch arrived
  let received := s.addCursor.changeCursor s.cursorCount (.received first)
  let I : ω → Scene → Prop := fun _ s' => s'.history = received.history ∧
    s'.cursors = received.cursors ∧ s'.cursorCount = received.cursorCount
  have hI : Logless I := fun _ _ _ _ h => h
  refine wp_ingest hI first ⟨rfl, rfl, rfl⟩ ?_ ?_
  · rintro w s' ⟨hhistory, hcursors, hcount⟩ c ⟨⟩
    have hmaking : (s'.changeCursor s.cursorCount (.settled first)).history =
        s.history ++ making s.cursorCount first := by
      show s'.history ++ _ = _
      rw [hhistory]
      show ((s.history ++ _) ++ _) ++ _ = _
      rw [List.append_assoc, List.append_assoc]
      rfl
    have hstate : (s'.changeCursor s.cursorCount (.settled first)).cursors s.cursorCount =
        (Ledger.opened first).state := by
      rw [Scene.changeCursor_cursors_self, hcursors, Scene.changeCursor_cursors_self,
        Scene.addCursor_cursors_self]
      rfl
    refine ⟨rfl, hmaking, ⟨s.history, hmaking⟩, hstate, ?_⟩
    show s.cursorCount < s'.cursorCount
    rw [hcount]
    exact Nat.lt_succ_self _
  · exact fun e w s' _ _ c hc => nomatch hc

/-- **A cursor that is made from a batch is fresh.** -/
theorem fresh_of_opened {s s' : Scene} {c : Cursor α}
    (h : (opened service mapper requestLimit overallLimit first).run s = (.ok c, s')) :
    c.service = service ∧ c.mapper = mapper ∧ c.Fresh first s' := by
  have hmade : c = ⟨s.cursorCount, service, mapper, requestLimit, overallLimit⟩ ∧
      s'.history = s.history ++ making c.ref first ∧ c.Fresh first s' :=
    Program.run_of_wp (w := ()) wp_opened h c rfl
  obtain ⟨rfl, -, hfresh⟩ := hmade
  exact ⟨rfl, rfl, hfresh⟩

end Cursor

/-- **The cursor of a query is fresh,** and nothing but the query was sent before. -/
theorem Database.cursor_opened {d : Database} {q : Query} {mapper : Mapper α}
    {request timeout : Option Int} {s s' : Scene} {c : Cursor α}
    (h : (d.cursor q mapper request timeout).run s = (.ok c, s')) :
    c.service = d.service ∧ c.mapper = mapper ∧ ∃ first, c.Fresh first s' ∧
      ∃ time body, s'.history = s.history ++
        .sent time (d.gateway.requestFor
          (QueryService.submission q (d.session.limit request timeout)) body) ::
            Cursor.making c.ref first := by
  let J : Unit → Scene → Prop := fun _ s1 => ∃ time body, s1.history = s.history ++
    [.sent time (d.gateway.requestFor
      (QueryService.submission q (d.session.limit request timeout)) body)]
  have hcarries : d.service.gateway.Carries .alone (fun _ s1 => s1.history = s.history) J
      (QueryService.submission q (d.session.limit request timeout)) := by
    intro body w s1 hs1
    refine ⟨trivial, ?_⟩
    intro w' reply s2 hback
    obtain ⟨-, rfl⟩ := Discipline.alone_back hback
    refine ⟨s1.now, body, ?_⟩
    rw [← hs1]
    rfl
  have hwp : (d.cursor q mapper request timeout).wp .alone (fun r _ s' => ∀ c, r = .ok c →
      c.service = d.service ∧ c.mapper = mapper ∧ ∃ first, c.Fresh first s' ∧
        ∃ time body, s'.history = s.history ++
          .sent time (d.gateway.requestFor
            (QueryService.submission q (d.session.limit request timeout)) body) ::
              Cursor.making c.ref first) () s := by
    unfold cursor
    refine Program.wp_seq (QueryService.wp_submit (J := J) (fun _ _ _ _ h => h)
      (fun _ _ _ _ h => h) hcarries rfl) ?_ fun e w s1 _ c hc => nomatch hc
    intro first w s1 h
    obtain ⟨time, body, hs1⟩ := h.ok
    refine Program.wp_mono Cursor.wp_opened fun r w s2 h c hc => ?_
    obtain ⟨rfl, hs2, hfresh⟩ := h c hc
    refine ⟨rfl, rfl, first, hfresh, time, body, ?_⟩
    rw [hs2, hs1, List.append_assoc]
    rfl
  exact Program.run_of_wp hwp h c rfl

/-! ### A specimen -/

/-- A database of a server that is asked without credentials. -/
def Database.specimen (mode : Mode) : Database where
  session :=
    { serial := 0
      mode := mode
      address := "http://server"
      options := ⟨[], [], [], .anonymous, "_system", ⟨.null, .null⟩, "1.0"⟩
      credentials := .anonymous
      ownsTransport := false }
  name := "shop"

/-- A query without settings. -/
def Query.specimen : Query := ⟨"RETURN 1", [], none, .unset, .unset, none, none, .unset, none⟩

/-- Three items, and there are more. -/
def Batch.specimen : Batch := ⟨[.int 1, .int 2, .int 3], true, some "7", none, none, none⟩

/-- The reply to a query: no items yet, but there are more. -/
def Outcome.specimen : Outcome where
  playback := .response 201 [] ("\x7b\"result\":[],\"hasMore\":true,\"id\":\"7\"\x7d".toList.map
    fun x => x.val.toUInt8)
  elapsed := 0
  gate := none

/-- A reply that is held back by a gate. -/
def Outcome.gated : Outcome := ⟨.lost "unreachable", 0, some "gate"⟩

/-- The scene in which a server is about to answer the query. -/
def Scene.specimen : Scene :=
  Scene.start 0 [.specimen, .gated, ⟨.broken "no connections left", 0, none⟩]

/-- A cursor over three items and more can be made. -/
theorem Cursor.opened_specimen (mode : Mode) (s : Scene) : ∃ c s₁,
    (opened (Database.specimen mode).service Mapper.raw .null .null Batch.specimen).run s =
      (.ok c, s₁) :=
  ⟨_, _, rfl⟩

/-- The cursor of the query, and the scene in which it has been made. -/
def Cursor.specimen? (mode : Mode) : Except Failure (Cursor Value) × Scene :=
  ((Database.specimen mode).cursor Query.specimen Mapper.raw none none).run Scene.specimen

/-- A program that has ended with a value. -/
theorem Program.run_of_toOption {p : Program α} {s : Scene} {a : α}
    (h : (p.run s).1.toOption = some a) : p.run s = (.ok a, (p.run s).2) := by
  refine Prod.ext ?_ rfl
  show (p.run s).1 = .ok a
  cases hr : (p.run s).1 with
  | ok b =>
    rw [hr] at h
    exact congrArg Except.ok (Option.some.inj h)
  | error e =>
    rw [hr] at h
    cases h

theorem Cursor.run_specimen {mode : Mode} {c : Cursor Value}
    (h : (specimen? mode).1.toOption = some c) :
    ((Database.specimen mode).cursor Query.specimen Mapper.raw none none).run Scene.specimen =
      (.ok c, (specimen? mode).2) :=
  Program.run_of_toOption h

/-- The scene in which a server answers the query, sends a further batch as soon as it is let to,
and releases the cursor. -/
def Scene.late : Scene :=
  Scene.start 0
    [.specimen,
      ⟨.response 200 [] ("\x7b\"result\":[1,2],\"hasMore\":true,\"id\":\"7\"\x7d".toList.map
        fun x => x.val.toUInt8), 0, some "gate"⟩,
      ⟨.response 202 [] ("\x7b\"error\":false,\"code\":202\x7d".toList.map
        fun x => x.val.toUInt8), 0, none⟩]

/-- The cursor of the query, over which a batch will be late. -/
def Cursor.late? : Except Failure (Cursor Value) × Scene :=
  ((Database.specimen .async).cursor Query.specimen Mapper.raw none none).run Scene.late

end AqlClient
