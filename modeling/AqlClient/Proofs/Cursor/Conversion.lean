import AqlClient.Proofs.Cursor.Completeness
import AqlClient.Proofs.Cursor.Rejection

/-!
# How conversion fails

However a cursor has been used, and whatever is done with it next, conversion fails at the first item
that is not accepted of all that have arrived since the query (`Database.rejection_keeps`).

For what takes no more than a batch this is `Cursor.next_converts` and `Cursor.nextBatch_converts`.
The methods that read all that is left are loops around the same parts, which fail for such an item,
or where there is none, or for a function of the caller (`Cursor.Caused`). Behind a failure they
close the cursor, by which nothing arrives (`Cursor.arrived_close`), so that the item is still the
first one that is not accepted.
-/

namespace AqlClient

variable {α β γ : Type} {c : Cursor α}

namespace Cursor

/-! ### All that is left -/

/-- **What a program has failed for** that reads on and on: an item that is not accepted, or else
everything that has arrived has been accepted, or the failure has come from elsewhere. -/
def Caused (c : Cursor α) (elsewhere : Failure → Scene → Prop) (e : Failure) (s : Scene) : Prop :=
  (∀ b ∈ (Ledger.of c.ref s.history).arrived, b.Legible) →
    c.mapper.Rejects (Ledger.of c.ref s.history).items e ∨
      c.mapper.Accepts (Ledger.of c.ref s.history).items ∨ elsewhere e s

/-- A function has been called since some scene, and has failed. -/
def Raises (visit : α → Program Bool) (s₀ : Scene) (e : Failure) (s : Scene) : Prop :=
  ∃ a s₁ s₂, s₀.Before s₁ ∧ (visit a).run s₁ = (.error e, s₂) ∧ s₂.Before s

section Loops

variable {W : Watch c} (hopening : W.opening = Ledger.of c.ref W.past) (hfree : W.Free)
  (hkept : ∀ k, W.kept k = none) (elsewhere : Failure → Scene → Prop)

include hopening hfree

/-- Handing out fails for an item that is not accepted. -/
theorem stays_handOut_caused (number : Nat) :
    (c.handOut number).Stays .alone W.Vetted fun e w s => W.Vetted w s ∧ c.Caused elsewhere e s := by
  intro w s h
  have hvetted := vetted_handOut hfree number h
  rw [wp_handOut] at hvetted ⊢
  split at hvetted
  case h_1 => exact hvetted.1
  case h_2 e hbalks =>
    exact ⟨h, fun _ => .inl ((stuck_of_balks hopening h hbalks).rejects hopening h)⟩

include hkept

/-- A fetch fails where everything has been accepted. -/
theorem supplied_caused (deadline : Option Deadline) :
    c.Supplied .alone deadline W.Vetted fun e w s => W.Vetted w s ∧ c.Caused elsewhere e s := by
  intro w s h hneeds
  refine Program.wp_mono (wp_fetchNext_vetted hfree hkept deadline h hneeds) ?_
  rintro r w s' ⟨hvetted, -, herror⟩
  cases r with
  | ok u => exact hvetted
  | error e =>
    exact ⟨hvetted, fun hlegible =>
      .inr (.inl (accepts_of_wanting hopening hvetted (herror e rfl) hlegible))⟩

/-- Reading all that is left fails for an item that is not accepted, or where there is none. -/
theorem stays_remainder_caused (d : Deadline) :
    (c.remainder d).Stays .alone W.Vetted fun e w s => W.Vetted w s ∧ c.Caused elsewhere e s := by
  rw [remainder_eq]
  exact (supplied_caused hopening hfree hkept elsewhere (some d)).remainderBy
    (empties_drain (stays_handOut_caused hopening hfree elsewhere))

omit elsewhere in
/-- Calling a function on all that is left may fail for the function as well. -/
theorem stays_visitAll_caused (hmine : ∀ q, W.mine q = true → c.concerns q = true)
    {visit : α → Program Bool} (hvisit : ∀ a, c.Client (visit a)) (s₀ : Scene) (d : Deadline) :
    (c.visitAll (c.pullUnder d) visit).Stays .alone (fun w s => W.Vetted w s ∧ s₀.Before s)
      fun e w s => W.Vetted w s ∧ c.Caused (Raises visit s₀) e s := by
  refine stays_visitAll ?_ fun a w s h => ?_
  · refine Program.stays_bind (Supplied.fill fun w s h hneeds => ?_) fun _ =>
      Program.stays_bind (fun w s h => ?_) fun items => Program.stays_pure items.head?
    · exact Program.wp_ends_before
        (supplied_caused hopening hfree hkept (Raises visit s₀) (some d) h.1 hneeds) h.2
    · exact Program.wp_ends_before
        (stays_handOut_caused hopening hfree (Raises visit s₀) 1 h.1) h.2
  · refine Program.wp_ends_before ?_ h.2
    have hvetted := (Program.wp_alone _).1 (Client.vetted hfree hkept hmine (hvisit a) h.1)
    rw [Program.wp_alone]
    cases hrun : (visit a).run s with
    | mk r s' =>
      rw [hrun] at hvetted
      cases r with
      | ok on => exact hvetted.1
      | error e => exact ⟨hvetted.1, fun _ => .inr (.inr ⟨a, s, s', h.2, hrun, .refl s'⟩)⟩

end Loops

/-! ### Closing -/

/-- The batches that have arrived are those. -/
def HasArrived (c : Cursor α) (arrived : List Batch) (s : Scene) : Prop :=
  (Ledger.of c.ref s.history).arrived = arrived

/-- **Nothing arrives while a cursor is closed.** -/
theorem arrived_close (arrived : List Batch) :
    c.close.Upholds .alone (fun (_ : Unit) s => c.HasArrived arrived s) fun _ => True := by
  let I : Unit → Scene → Prop := fun _ s => c.HasArrived arrived s
  have hI : Logless I := fun _ _ _ _ h => h
  have hcarries : ∀ id, c.service.gateway.Carries .alone I I
      (QueryService.cursorCall "DELETE" id c.plainLimit) := by
    intro id body w s h
    refine ⟨trivial, fun w' reply s' hback => ?_⟩
    obtain ⟨-, rfl⟩ := Discipline.alone_back hback
    show (Ledger.of c.ref (s.history ++ [_])).arrived = arrived
    rw [Ledger.of_append]
    exact h
  intro w s h
  have hclosed : I w (s.changeCursor c.ref .closed) := by
    show (Ledger.of c.ref (s.history ++ [_])).arrived = arrived
    rw [Ledger.of_change]
    exact h
  unfold close
  rw [wp_look, wp_update]
  split
  case h_1 => exact Program.kept_ok hclosed
  case h_2 id _ =>
    refine Program.wp_mono (QueryService.wp_release hI hI (hcarries id) hclosed) ?_
    exact fun _ _ _ h => (Program.kept_iff fun _ => trivial).2 (or_self_iff.1 h)

/-- **A program behind which the cursor is closed fails** as it would have failed, unless the release
has failed. -/
theorem closing_failed {fails : Failure → Prop} {s s' : Scene} {e : Failure}
    (hchannel : c.service.gateway.channel = some c.service.mode) (hscript : s.FailsBy fails)
    {body : Program β} (h : (c.closing body).run s = (.error e, s')) :
    c.HasArrived (Ledger.of c.ref (body.run s).2.history).arrived s' ∧ (body.run s).2.Before s' ∧
      ((body.run s).1 = .error e ∨ (∃ b, (body.run s).1 = .ok b) ∨
        (e.isClientError = false ∧ fails e)) := by
  refine ⟨?_, ?_, ?_⟩
  · let I : Unit → Scene → Prop := fun _ s' =>
      c.HasArrived (Ledger.of c.ref (body.run s).2.history).arrived s'
    have hI : Logless I := fun _ _ _ _ h => h
    have hbody : body.wp .alone (Program.Kept I fun _ => True) () s :=
      (Program.wp_alone body).2 ((Program.kept_iff fun _ => trivial).2 rfl)
    exact (Program.run_of_wp (wp_kept_closing hI (arrived_close _) hbody) h).1
  · have hend : ((c.closing body).run s).2 = s' := congrArg Prod.snd h
    unfold closing at hend
    rw [Program.run_bind, Program.run_attempt] at hend
    exact hend ▸ Program.before_run _ _
  · cases hr : (body.run s).1 with
    | ok b => exact .inr (.inl ⟨b, rfl⟩)
    | error e₀ =>
      obtain hfirst | ⟨e', hforeign, hrest⟩ := closing_failsWith hchannel hscript hr
      · rw [h] at hfirst
        exact .inl hfirst.symm
      · rw [h] at hforeign
        cases hforeign
        exact .inr (.inr hrest)

theorem Caused.mono {elsewhere elsewhere' : Failure → Scene → Prop} {e : Failure} {s s' : Scene}
    (h : c.Caused elsewhere e s)
    (harrived : c.HasArrived (Ledger.of c.ref s.history).arrived s')
    (helse : elsewhere e s → elsewhere' e s') : c.Caused elsewhere' e s' := by
  unfold Caused Ledger.items at *
  rw [show (Ledger.of c.ref s'.history).arrived = _ from harrived]
  exact fun hlegible => (h hlegible).imp_right fun hrest => hrest.imp_right helse

/-- **How a method fails besides** that reads all that is left and closes the cursor behind itself:
it does not begin, or the release fails in a way that the client does not report. -/
def Besides (c : Cursor α) (fails : Failure → Prop) (limit : Value) (s : Scene) (e : Failure) :
    Prop :=
  ((c.deadline limit).run s).1 = .error e ∨ (e.isClientError = false ∧ fails e)

/-- **How conversion fails,** whatever is done with the cursor next. -/
structure Converting (c : Cursor α) (fails : Failure → Prop) (s : Scene) : Prop where
  /-- What has been taken has been accepted. -/
  vetted : c.mapper.Accepts (Ledger.of c.ref s.history).taken
  next : c.Converts c.next? s
  nextBatch : c.Converts c.nextBatch s
  hasNext : ∀ e s', c.hasNext.run s = (.error e, s') →
    (∀ b ∈ (Ledger.of c.ref s'.history).arrived, b.Legible) →
      c.mapper.Accepts (Ledger.of c.ref s'.history).items
  toList : ∀ general timeout e s', (c.toList general timeout).run s = (.error e, s') →
    c.Caused (fun e _ => c.Besides fails (c.overall general timeout) s e) e s'
  /-- The function may fail itself, and where it has been called on all that is left, the release
  may. -/
  forEach : ∀ visit general timeout, (∀ a, c.Client (visit a)) → ∀ e s',
    (c.forEach visit general timeout).run s = (.error e, s') →
      c.Caused (fun e s' => c.Besides fails (c.overall general timeout) s e ∨
        Raises visit s e s' ∨
        ∃ u, ((c.underDeadline (c.overall general timeout) fun d =>
          c.visitAll (c.pullUnder d) visit).run s).1 = .ok u) e s'

/-- A deadline is begun where the cursor is not closed, and nothing happens. -/
theorem run_deadline {limit : Value} {r : Except Failure Deadline} {s s' : Scene}
    (h : (c.deadline limit).run s = (r, s')) :
    s' = s ∧ ∀ d, r = .ok d → (s.cursors c.ref).phase ≠ .closed := by
  refine Program.run_of_wp (w := ()) ((wp_deadline fun r _ s' => s' = s ∧ ∀ d, r = .ok d →
    (s.cursors c.ref).phase ≠ .closed).2 ?_) h
  split
  case isTrue => exact ⟨rfl, fun _ hd => (by cases hd)⟩
  case isFalse hopen => exact ⟨rfl, fun _ _ => hopen⟩

section Ends

variable {W : Watch c} (hopening : W.opening = Ledger.of c.ref W.past)
  (hphased : W.opening.Phased c.service.mode) (hfree : W.Free) (hkept : ∀ k, W.kept k = none)
  (hmine : ∀ q, W.mine q = true → c.concerns q = true)
  (hchannel : c.service.gateway.channel = some c.service.mode) {fails : Failure → Prop} {s : Scene}
  (hscript : s.FailsBy fails) (h : W.Vetted false s)

include hchannel hscript h

omit hopening hphased hfree hkept hmine h in
/-- A method that closes the cursor behind itself fails for a known cause if what it does before
fails for one, and otherwise the release has failed. -/
theorem underDeadline_caused {I : Bool → Scene → Prop} {elsewhere : Failure → Scene → Prop}
    {limit : Value} {body : Deadline → Program β} (hI : I false s)
    (hbody : ∀ d, (body d).Stays .alone I fun e w s => W.Vetted w s ∧ c.Caused elsewhere e s)
    (hlater : ∀ ⦃e s₁ s₂⦄, s₁.Before s₂ → elsewhere e s₁ → elsewhere e s₂)
    {e : Failure} {s' : Scene}
    (hrun : (c.underDeadline limit fun d => c.closing (body d)).run s = (.error e, s')) :
    c.Caused (fun e s' => c.Besides fails limit s e ∨ elsewhere e s') e s' ∨
      ∃ d b, (c.deadline limit).run s = (.ok d, s) ∧ ((body d).run s).1 = .ok b ∧
        c.HasArrived (Ledger.of c.ref ((body d).run s).2.history).arrived s' := by
  unfold underDeadline at hrun
  rw [Program.run_bind] at hrun
  cases hd : (c.deadline limit).run s with
  | mk r s₀ =>
    obtain ⟨rfl, -⟩ := run_deadline hd
    rw [hd] at hrun
    cases r with
    | error e' =>
      cases hrun
      exact .inl fun _ => .inr (.inr (.inl (.inl (congrArg Prod.fst hd))))
    | ok d =>
      obtain ⟨harrived, hbefore, hfailed | ⟨b, hb⟩ | hforeign⟩ :=
        closing_failed hchannel hscript hrun
      · have hend := (Program.wp_alone _).1 (hbody d hI)
        rw [hfailed] at hend
        exact .inl (hend.2.mono harrived fun helse => .inr (hlater hbefore helse))
      · exact .inr ⟨d, b, rfl, hb, harrived⟩
      · exact .inl fun _ => .inr (.inr (.inl (.inr hforeign)))

include hopening hphased hfree hkept hmine

/-- **Under a watch** conversion fails at the first item that is not accepted. -/
theorem converting_of_vetted : c.Converting fails s where
  vetted := by
    obtain ⟨L, hL, -, -, haccepts⟩ := h
    rw [hL.books hopening]
    exact haccepts
  next := next_converts hopening hphased hfree hkept hchannel h
  nextBatch := nextBatch_converts hopening hfree hkept h
  hasNext _ _ hrun hlegible := hasNext_converts hopening hfree hkept h hrun hlegible
  toList general timeout e s' hrun := by
    unfold Cursor.toList at hrun
    rw [toListWithin_eq] at hrun
    obtain hcaused | ⟨d, items, hd, hitems, harrived⟩ := underDeadline_caused hchannel hscript h
      (stays_remainder_caused hopening hfree hkept fun _ _ => False) (fun _ _ _ _ => id) hrun
    · exact hcaused.mono rfl fun hrest => hrest.elim id False.elim
    · -- the list was read to its end, so that everything has been taken
      have hopen : (s.cursors c.ref).phase ≠ .closed := (run_deadline hd).2 d rfl
      have hread := (Program.wp_alone _).1 (wp_remainder_readOut W.hosts_alone
        Discipline.honest_alone hfree d (h.quiet.whole hopen))
      have hvetted := (Program.wp_alone _).1
        (stays_remainder_caused hopening hfree hkept (fun _ _ => False) d h)
      rw [hitems] at hvetted
      obtain ⟨⟨M, hM, -, -, -, htaken⟩, -⟩ := hread.2 items hitems
      have haccepts : c.mapper.Accepts
          (Ledger.of c.ref ((c.remainder d).run s).2.history).items := by
        obtain ⟨L, hL, -, -, haccepts⟩ := hvetted
        rw [hM.books hopening, ← htaken, ← hM.books hopening, hL.books hopening]
        exact haccepts
      have hcaused : c.Caused (fun _ _ => False) e ((c.remainder d).run s).2 :=
        fun _ => .inr (.inl haccepts)
      exact hcaused.mono harrived False.elim
  forEach visit general timeout hvisit e s' hrun := by
    rw [forEach_eq] at hrun
    obtain hcaused | ⟨d, u, hd, hu, -⟩ := underDeadline_caused hchannel hscript ⟨h, .refl s⟩
      (stays_visitAll_caused hopening hfree hkept hmine hvisit s)
      (fun _ _ _ hbefore ⟨a, s₁, s₂, hstart, hfailed, hend⟩ =>
        ⟨a, s₁, s₂, hstart, hfailed, hend.trans hbefore⟩) hrun
    · exact hcaused.mono rfl fun hrest => hrest.imp_right .inl
    · refine fun _ => .inr (.inr (.inr (.inr ⟨u, ?_⟩)))
      unfold underDeadline
      rw [Program.run_bind, hd]
      exact hu

end Ends

/-- A fresh cursor has taken nothing. -/
theorem Fresh.vetted {first : Batch} {s : Scene} (h : c.Fresh first s) (mine : Request → Bool) :
    (Watch.sinceMaking c mine first s.history).Vetted false s := by
  obtain ⟨L, hL, hlevel, hw⟩ := h.quiet mine
  refine ⟨L, hL, hlevel, hw, ?_⟩
  rw [← hL.books h.books.symm, h.books]
  exact List.forall_mem_nil _

end Cursor

namespace Database

/-- **Conversion fails at the first item that is not accepted,** counted from the first item of the
query, and whatever has been done with the cursor before. The failure names the item by its position
and carries it, or is the one with which the mapper has aborted. The next item and the next batch
leave everything in its place then: asked for again they fail alike, and nothing is sent. -/
theorem rejection_keeps {d : Database} {q : Query} {mapper : Mapper α} {request timeout : Option Int}
    {s₀ s₁ : Scene} (hopen : (d.cursor q mapper request timeout).run s₀ = (.ok c, s₁))
    {fails : Failure → Prop} (hscript : s₀.FailsBy fails) {p : Program γ} (hp : c.Client p) :
    c.mapper = mapper ∧ c.Converting fails (p.run s₁).2 := by
  obtain ⟨hservice, hmapper, first, hfresh, hnamed⟩ := cursor_named hopen
  let W := Watch.sinceMaking c c.concerns first s₁.history
  have hchannel := channel_of_service hservice
  have hphased : W.opening.Phased c.service.mode :=
    Ledger.opened_phased c.service.mode hnamed
  have hfree : W.Free := fun _ => trivial
  have hvetted := (Program.wp_alone p).1
    (hp.vetted hfree (fun _ => rfl) (fun _ hq => hq) (hfresh.vetted c.concerns))
  have hafter : (p.run s₁).2.FailsBy fails :=
    hscript.before ((Program.before_of_run hopen).trans (p.before_run s₁))
  exact ⟨hmapper, Cursor.converting_of_vetted hfresh.books.symm hphased hfree (fun _ => rfl)
    (fun _ hq => hq) hchannel hafter hvetted.1⟩

/-- Whether something has failed for a number in the place of an item. -/
def rejects (field : String) (number : Int) : Except Failure β → Bool
  | .error (.malformed m) => m.field == some field && m.answer.int? == some number
  | _ => false

/-- A mapper accepts nothing but the number one. The first of two items is handed out, and the second
one is asked for. -/
theorem rejection_keeps_specimen : ∃ (c : Cursor Value) (s₁ : Scene),
    ((specimen .blocking).cursor Query.specimen
      (Mapper.checked (fun item => item.int? == some 1) "no one") none none).run Scene.late =
        (.ok c, s₁) ∧
    (Scene.late.FailsBy fun e => e.isTransport = true) ∧ c.Client c.next? ∧
    c.Converting (fun e => e.isTransport = true) (c.next?.run s₁).2 ∧
    rejects "result[1]" 2 (c.next?.run (c.next?.run s₁).2).1 = true := by
  let made := ((specimen .blocking).cursor Query.specimen
    (Mapper.checked (fun item => item.int? == some 1) "no one") none none).run Scene.late
  have hcheck : (made.1.toOption.any fun c =>
      rejects "result[1]" 2 (c.next?.run (c.next?.run made.2).2).1) = true := by decide +kernel
  obtain ⟨c, hc, hrejects⟩ := (Option.any_eq_true _ _).1 hcheck
  have hopen := Program.run_of_toOption hc
  have hscript : Scene.late.FailsBy fun e => e.isTransport = true :=
    Scene.failsBy_of_responses (by simp [Scene.late, Scene.start, Outcome.specimen, Playback.reply])
  exact ⟨c, _, hopen, hscript, .next, (rejection_keeps hopen hscript .next).2, hrejects⟩

end Database

end AqlClient
