import AqlClient.Proofs.Cursor.Phases
import AqlClient.Proofs.Cursor.Refusal

/-!
# Fetches do not overlap

What tasks that share a cursor ask for one at a time (`Database.cursor_shared`). The flag of the
cursor says whether a fetch is on its way, and whoever needs another one meanwhile is refused
(`Cursor.Refuses`).

A method that closes the cursor behind the refusal is followed on the terms of the one release that
it sends, which rely on nothing but that a closed cursor is not reopened meanwhile
(`Cursor.releasing`). In a pool this holds (`Cursor.Fresh.closed_of_leads`).
-/

namespace AqlClient

variable {α β : Type} {c : Cursor α}

namespace Cursor

/-- **A closed cursor stays closed,** whatever becomes of the tasks that share it. -/
theorem Fresh.closed_of_leads {first : Batch} {s₁ : Scene} {p later : TaskPool β}
    (hfresh : c.Fresh first s₁) (hmode : c.service.mode = .async) (hp : p.Reaches c.Joins s₁)
    (hlater : p.Leads c.Joins later) (hclosed : (p.scene.cursors c.ref).phase = .closed) :
    (later.scene.cursors c.ref).phase = .closed := by
  obtain ⟨_, ⟨L, hL, -, -⟩, -, -⟩ := hfresh.orderly hmode hp
  obtain ⟨_, ⟨M, hM, -, -⟩, -, -⟩ := hfresh.orderly hmode (hp.onward hlater)
  have hbooks : Ledger.opened first = Ledger.of c.ref s₁.history := hfresh.books.symm
  obtain ⟨past, hpast, -⟩ := hL.events
  -- the later history goes on from the earlier one under the rules
  obtain ⟨_, more, hhistory, -, -, hlaw⟩ :=
    hM.split hbooks ⟨past, hpast.symm⟩ hlater.before.history
  have hfollows := hlaw.follows.closed
  rw [← Ledger.of_append, ← hhistory, hM.books hbooks, hL.books hbooks, ← hL.state,
    ← hM.state] at hfollows
  exact hfollows hclosed

end Cursor

/-- **The tasks that share the cursor of a query do not overlap in what they ask for.** At most one
fetch is on its way, and the flag of the cursor says whether one is. The requests obey the
protocol of the cursor, so that at most one release is sent and no fetch behind it. Who needs
another batch while one is on its way is refused, and where the cursor is closed behind that it
stays closed. -/
theorem Database.cursor_shared {d : Database} {q : Query} {mapper : Mapper α}
    {request timeout : Option Int} {s₀ s₁ : Scene} {p : TaskPool β}
    (hopen : (d.cursor q mapper request timeout).run s₀ = (.ok c, s₁))
    (hmode : d.session.mode = .async) (hp : p.Reaches c.Joins s₁) :
    (p.waiting.countP fun t => c.fetches t.request) =
      (p.scene.cursors c.ref).fetching.toNat ∧
    (∃ events, p.scene.history = s₁.history ++ events ∧ c.Obeys s₁.history events) ∧
    ((∃ t ∈ p.waiting, c.fetches t.request = true) →
      (p.scene.cursors c.ref).phase = .live →
        c.Busy p.scene ∧ (p.scene.cursors c.ref).cursorId.isSome = true) ∧
    (∀ s, c.Busy s → c.Refuses s) ∧
    ∀ later, p.Leads c.Joins later → (p.scene.cursors c.ref).phase = .closed →
      (later.scene.cursors c.ref).phase = .closed := by
  obtain ⟨hservice, -, first, hfresh, hnamed⟩ := cursor_named hopen
  have hasync : c.service.mode = .async := by
    rw [hservice]
    exact hmode
  have hchannel := channel_of_service hservice
  obtain ⟨w, horderly⟩ := hfresh.orderly hasync hp
  obtain ⟨L, hL, -, hw⟩ := horderly.scene
  obtain ⟨events, hhistory, hlaw, hbooks⟩ := hL.events
  have hflag : (p.scene.cursors c.ref).fetching = w := by
    rw [hL.state, hw]
  refine ⟨?_, ?_, ?_, fun s hs => hs.refuses hchannel, fun later hlater =>
    hfresh.closed_of_leads hasync hp hlater⟩
  · rw [hflag]
    exact horderly.single
  · exact ⟨events, hhistory, hlaw.obeys rfl hfresh.books.symm⟩
  · rintro ⟨t, ht, hfetches⟩ hlive
    -- the view of the pool is the flag of the cursor, and the count of the fetches
    have htrue : w = true := horderly.of_exclusive ht hfetches
    have hbuffer : (p.scene.cursors c.ref).buffer = [] := by
      rw [hL.state]
      exact (hL.sound.fetching (hw.trans htrue)).2.1
    refine ⟨⟨hasync, hflag.trans htrue, hlive, hbuffer⟩, ?_⟩
    -- a live cursor has a name
    have hphased : L.Phased c.service.mode := by
      rw [hbooks]
      exact hlaw.phased (Ledger.opened_phased _ hnamed)
    rw [hL.state] at hlive ⊢
    exact (hphased.live hlive).1

/-- One task fetches while another one wants to read all that is left. -/
theorem Database.cursor_shared_specimen : ∃ c s₁,
    ((Database.specimen .async).cursor Query.specimen Mapper.raw none none).run
      Scene.specimen = (.ok c, s₁) ∧
    (Database.specimen .async).session.mode = .async ∧
    let p := (((TaskPool.start s₁).spawn c.nextBatch).2.spawn (c.toList none none)).2
    p.Reaches c.Joins s₁ ∧
    ((p.waiting.countP fun t => c.fetches t.request) =
      (p.scene.cursors c.ref).fetching.toNat ∧
    (∃ events, p.scene.history = s₁.history ++ events ∧ c.Obeys s₁.history events) ∧
    ((∃ t ∈ p.waiting, c.fetches t.request = true) →
      (p.scene.cursors c.ref).phase = .live →
        c.Busy p.scene ∧ (p.scene.cursors c.ref).cursorId.isSome = true) ∧
    (∀ s, c.Busy s → c.Refuses s) ∧
    ∀ later, p.Leads c.Joins later → (p.scene.cursors c.ref).phase = .closed →
      (later.scene.cursors c.ref).phase = .closed) := by
  obtain ⟨c, hc⟩ := Option.isSome_iff_exists.1
    (show (Cursor.specimen? .async).1.toOption.isSome = true by decide +kernel)
  have hopen := Cursor.run_specimen hc
  refine ⟨c, _, hopen, rfl, ?_⟩
  intro p
  have hp : p.Reaches c.Joins (Cursor.specimen? .async).2 :=
    .spawn (.spawn .start .nextBatch) (.toList none none)
  exact ⟨hp, cursor_shared hopen rfl hp⟩

namespace Cursor

/-- Whether reading all that is left of a live cursor ends with a failure of the transport while
the fetch of another task is on its way. -/
def isCutOff (c : Cursor Value) (s : Scene) : Bool :=
  let p := ((TaskPool.start s).spawn c.nextBatch).2
  p.waiting.any (fun t => c.fetches t.request) && (p.scene.cursors c.ref).phase == .live &&
    match (p.spawn (c.toList none none)).2.outcome? 1 with
    | some (.error (.raised text)) => text == "no connections left"
    | _ => false

/-- **Who is refused a fetch may end with another failure,** if the release behind the refusal
breaks off. -/
theorem toList_cut_off : ∃ (c : Cursor Value) (p : TaskPool (List Value)),
    ((Database.specimen .async).cursor Query.specimen Mapper.raw none none).run Scene.specimen =
      (.ok c, (specimen? .async).2) ∧
    p.Reaches c.Joins (specimen? .async).2 ∧
    (∃ t ∈ p.waiting, c.fetches t.request = true) ∧
    (p.scene.cursors c.ref).phase = .live ∧
    (p.spawn (c.toList none none)).2.outcome? 1 =
      some (.error (.raised "no connections left")) := by
  have hcheck : ((specimen? .async).1.toOption.any fun c =>
      c.isCutOff (specimen? .async).2) = true := by decide +kernel
  obtain ⟨c, hc, hcut⟩ := (Option.any_eq_true _ _).1 hcheck
  unfold isCutOff at hcut
  rw [Bool.and_eq_true, Bool.and_eq_true, beq_iff_eq, List.any_eq_true] at hcut
  obtain ⟨⟨hfetch, hlive⟩, hend⟩ := hcut
  refine ⟨c, _, run_specimen hc, .spawn .start .nextBatch, hfetch, hlive, ?_⟩
  split at hend
  case h_1 text htext =>
    rw [beq_iff_eq] at hend
    rw [← hend]
    exact htext
  case h_2 => cases hend

end Cursor

end AqlClient
