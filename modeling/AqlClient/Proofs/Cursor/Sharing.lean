import AqlClient.Proofs.Cursor.Protocol
import AqlClient.Proofs.Program.Interleaving

/-!
# A cursor that is shared by tasks

Any number of tasks may use one asynchronous cursor. A watch over the cursor is what they have
to keep among them (`Watch.sharing`): a fetch is exclusive, and whenever a task waits it leaves
a quiet scene behind, in which the flag of the cursor says whether a fetch is on its way. That
every client of the cursor does so has been shown for any discipline
(`Watch.Hosts.keeps_client`), so that it remains to be seen that these terms are one of them
(`Watch.hosts_sharing`).

For the pools that can be reached, `Cursor.shared_delivers` says that nothing is lost, doubled or put
out of order among the tasks.
-/

namespace AqlClient

variable {α β : Type} {c : Cursor α}

/-- Whether a request is a fetch of a cursor. -/
def Cursor.fetches (c : Cursor α) (q : Request) : Bool := c.concerns q && q.method == "PUT"

namespace Watch

/-- The terms on which tasks share a cursor. -/
def sharing (W : Watch c) : Sharing where
  exclusive q := W.mine q && q.method == "PUT"
  fit := W.Quiet
  elapse ms h := h.elapse ms

variable {W : Watch c}

theorem sharing_exclusive {q : Request} :
    W.sharing.exclusive q = true ↔ W.mine q = true ∧ q.method = "PUT" := by
  show (W.mine q && q.method == "PUT") = true ↔ _
  rw [Bool.and_eq_true, beq_iff_eq]

/-- **An asynchronous cursor can be used by several tasks.** -/
theorem hosts_sharing (hmode : c.service.mode = .async)
    (hmine : ∀ id limit body, W.mine (c.request "PUT" id limit body) = true) :
    W.Hosts W.sharing.discipline where
  alone hblocking := by
    rw [hmode] at hblocking
    cases hblocking
  pass w s q hq h := by
    have hshared : ¬ W.sharing.exclusive q = true := by
      rw [sharing_exclusive]
      exact fun hx => hq hx.1 hx.2
    -- the terms ask of such a request what the watch asks of it, and no more
    have hreturns : ∀ {w s}, W.sharing.Returns q w s ↔ W.Quiet w s := by
      intro w s
      unfold Sharing.Returns
      rw [if_neg hshared]
      exact Iff.rfl
    exact ⟨hreturns.2 h, fun w' reply s' hback => hreturns.1 hback⟩
  fetch _ s id limit body h := by
    have hexclusive : W.sharing.exclusive (c.request "PUT" id limit body) = true := by
      rw [sharing_exclusive]
      exact ⟨hmine id limit body, rfl⟩
    have hreturns : ∀ {w s}, W.sharing.Returns (c.request "PUT" id limit body) w s ↔
        w = false ∧ W.Quiet true s := by
      intro w s
      unfold Sharing.Returns
      rw [if_pos hexclusive]
      exact Iff.rfl
    exact ⟨hreturns.2 ⟨rfl, h⟩, fun w' reply s' hback => hreturns.1 hback⟩

/-- The tasks may know, too, that the replies they get come from the script. -/
theorem hosts_faithful (hmode : c.service.mode = .async)
    (hmine : ∀ id limit body, W.mine (c.request "PUT" id limit body) = true) :
    W.Hosts W.sharing.faithful where
  alone hblocking := by
    rw [hmode] at hblocking
    cases hblocking
  pass w s q hq h := by
    obtain ⟨hmay, hback⟩ := (hosts_sharing hmode hmine).pass hq h
    exact ⟨hmay, fun w' reply s' hfaithful => hback w' reply s' hfaithful.1⟩
  fetch hasync s id limit body h := by
    obtain ⟨hmay, hback⟩ := (hosts_sharing hmode hmine).fetch hasync id limit body h
    exact ⟨hmay, fun w' reply s' hfaithful => hback w' reply s' hfaithful.1⟩

end Watch

namespace Cursor

/-- What tasks that use a cursor may do. -/
def Joins (c : Cursor α) (γ : Type) (program : Program γ) : Prop := c.Client program

variable {first : Batch} {s₀ s₁ : Scene} {p : TaskPool β}

/-- **The tasks keep the watch** over a cursor that they share. -/
theorem Fresh.orderly (hfresh : c.Fresh first s₁) (hmode : c.service.mode = .async)
    (hp : p.Reaches c.Joins s₁) :
    ∃ w, (Watch.sinceMaking c c.concerns first s₁.history).sharing.Orderly p.waiting w p.scene :=
  Sharing.orderly_of_reaches
    (fun _ _ hjoins _ _ h => (Watch.hosts_sharing hmode fun id limit body =>
      c.concerns_request "PUT" id limit body).keeps_client (fun _ => trivial) (fun _ hq => hq)
        (fun _ => rfl) hjoins h)
    (hfresh.quiet c.concerns) hp

/-- **What a task has come to,** whatever the others have done since it was started. It is enough
to follow the task from any quiet scene on, under the terms of the pool. -/
theorem Fresh.ended (hfresh : c.Fresh first s₁) (hmode : c.service.mode = .async)
    (hp : p.Reaches c.Joins s₁) {program : Program β} {Q : Except Failure β → Scene → Prop}
    (hprogram : ∀ w, (Watch.sinceMaking c c.concerns first s₁.history).Quiet w p.scene →
      program.wp (Watch.sinceMaking c c.concerns first s₁.history).sharing.faithful
        (fun r w s => (Watch.sinceMaking c c.concerns first s₁.history).Quiet w s ∧ Q r s)
        w p.scene)
    {later : TaskPool β} (hlater : (p.spawn program).2.Leads c.Joins later)
    {r : Except Failure β} (hr : later.outcome? p.spawned = some r) :
    ∃ s, s.Before later.scene ∧ Q r s := by
  let W := Watch.sinceMaking c c.concerns first s₁.history
  have hhosts : W.Hosts W.sharing.faithful :=
    Watch.hosts_faithful hmode fun id limit body => c.concerns_request "PUT" id limit body
  have hjoins : ∀ γ (program : Program γ), c.Joins γ program → ∀ w s, W.Quiet w s →
      program.wp W.sharing.faithful (fun _ w s => W.Quiet w s) w s :=
    fun γ program hjoins w s h =>
      hhosts.keeps_client (fun _ => trivial) (fun _ hq => hq) (fun _ => rfl) hjoins h
  exact Sharing.ended_of_leads W.sharing.provides_faithful hjoins (hfresh.quiet c.concerns) hp
    hprogram hlater hr

/-- **Among the tasks that share a cursor nothing is lost, doubled or put out of order.** At any
point of the history, what has been handed out to all of them, in the order in which it was, is
a prefix of what has arrived, and all of it together with the buffer unless the cursor is closed.
While a batch is on its way, the buffer is empty. -/
theorem shared_delivers {service : QueryService} {mapper : Mapper α}
    {requestLimit overallLimit : Value}
    (hopen : (opened service mapper requestLimit overallLimit first).run s₀ = (.ok c, s₁))
    (hmode : service.mode = .async) (hp : p.Reaches c.Joins s₁) :
    (∀ h, s₁.history <+: h → h <+: p.scene.history → (Ledger.of c.ref h).Exact ∧
      ((Ledger.of c.ref h).state.fetching = true → (Ledger.of c.ref h).state.buffer = [])) ∧
    p.scene.cursors c.ref = (Ledger.of c.ref p.scene.history).state ∧
    ((∃ t ∈ p.waiting, c.fetches t.request = true) → (p.scene.cursors c.ref).buffer = []) := by
  obtain ⟨hservice, -, hfresh⟩ := fresh_of_opened hopen
  rw [← hservice] at hmode
  obtain ⟨w, horderly⟩ := hfresh.orderly hmode hp
  obtain ⟨L, hL, -, hw⟩ := horderly.scene
  have hbooks : Ledger.opened first = Ledger.of c.ref s₁.history := hfresh.books.symm
  refine ⟨fun history hpast hhistory => ?_, ?_, ?_⟩
  · have hsound := hL.sound_of_prefix hbooks hpast hhistory
    exact ⟨hsound.exact, fun hf => (hsound.fetching hf).2.1⟩
  · rw [hL.books hbooks]
    exact hL.state
  · rintro ⟨t, ht, hfetches⟩
    -- the flag says that a batch is on its way
    have hflag : L.state.fetching = true := hw.trans (horderly.of_exclusive ht hfetches)
    rw [hL.state]
    exact (hL.sound.fetching hflag).2.1

/-- Two tasks read a cursor, and the fetch of the first one is held back. -/
theorem shared_delivers_specimen : ∃ c s₁,
    (opened (Database.specimen .async).service Mapper.raw .null .null Batch.specimen).run
      (Scene.start 0 [.gated]) = (.ok c, s₁) ∧
    (Database.specimen .async).service.mode = .async ∧
    let fetching : Program (List Value) := do
      let _ ← c.nextBatch
      c.nextBatch
    let p := (((TaskPool.start s₁).spawn fetching).2.spawn c.nextBatch).2
    p.Reaches c.Joins s₁ ∧
    (∀ h, s₁.history <+: h → h <+: p.scene.history → (Ledger.of c.ref h).Exact ∧
      ((Ledger.of c.ref h).state.fetching = true → (Ledger.of c.ref h).state.buffer = [])) ∧
    p.scene.cursors c.ref = (Ledger.of c.ref p.scene.history).state ∧
    ((∃ t ∈ p.waiting, c.fetches t.request = true) → (p.scene.cursors c.ref).buffer = []) := by
  obtain ⟨c, s₁, hopen⟩ := opened_specimen .async (Scene.start 0 [.gated])
  refine ⟨c, s₁, hopen, rfl, ?_⟩
  intro fetching p
  have hp : p.Reaches c.Joins s₁ :=
    .spawn (.spawn .start (.bind .nextBatch fun _ => .nextBatch)) .nextBatch
  exact ⟨hp, shared_delivers hopen rfl hp⟩

end Cursor

end AqlClient
