import AqlClient.Proofs.Cursor.Keeping
import AqlClient.Proofs.Cursor.Refusal
import AqlClient.Proofs.Program.Replies

/-!
# What a fetch fails with

A fetch fails as expected (`Cursor.wp_fetchNext_expected`): the exchange has failed, or there is
something wrong with what came back, or the deadline has passed. All but the first the client
reports, except where a value is of the wrong type, which it finds out only by using it. That the
cursor has no name is not among these, provided that it has one when the fetch begins.

Where no exchange comes to anything a fetch fails (`Cursor.wp_fetchNext_dead`). A fetch that gets
a batch has therefore used up some of the script, so that a loop that fetches in each of its
rounds does not run out of them.
-/

namespace AqlClient

variable {α β : Type} {c : Cursor α}

namespace Cursor

variable {fails : Failure → Prop}

/-- A deadline that has passed the client reports. What limits a request may be no number. -/
theorem expected_remaining (hfails : fails .wrongType) (d : Deadline) (now : Int) (cap : Value)
    (label : Option String) : Expected fails (d.remaining now cap label) := by
  intro e he
  unfold Deadline.remaining at he
  split at he
  · cases he
  · cases he
  · split at he
    · split at he
      · cases he
      · split at he
        · cases he
          exact .inr hfails
        · cases he
    · cases he
      exact .inl rfl

section Fetching

variable {may : Request → Prop} {s : Scene}
  (hchannel : c.service.gateway.channel ≠ some c.service.mode →
    ∀ refusal, fails (.refused refusal))
  (hfails : fails .wrongType)

include hfails

/-- A batch arrives, or its warnings turn out to be something else. -/
theorem wp_ingest_expected (b : Batch) :
    (c.ingest b).wp (.hostile may fails) (fun r _ _ => Expected fails r) () s := by
  unfold ingest
  rw [wp_update]
  refine Program.wp_seq (wp_reportWarnings logless_true b trivial) (fun _ w s _ => ?_) ?_
  · exact fun e he => nomatch he
  · rintro e w s ⟨hwarned, -⟩ _ ⟨⟩
    rw [Batch.eq_wrongType_of_warned hwarned.symm]
    exact .inr hfails

include hchannel

/-- The exchange of a fetch fails as expected where the cursor has a name. -/
theorem wp_fetchBatch_expected (hmay : ∀ id limit body, may (c.request "PUT" id limit body))
    (deadline : Option Deadline) (hid : (s.cursors c.ref).cursorId.isSome = true) :
    (c.fetchBatch deadline).wp (.hostile may fails) (fun r _ _ => Expected fails r) () s := by
  refine wp_fetchBatch_of ?_ ?_ fun id limit _ _ => ?_
  · intro hnone
    rw [hnone] at hid
    cases hid
  · intro _ e _ he
    cases deadline with
    | none => cases he
    | some d =>
      have hremaining : Expected fails (c.limitAt (some d) s.now) :=
        expected_remaining hfails d s.now c.requestLimit (some requestTimeoutLabel)
      rw [he] at hremaining
      exact hremaining.ofError
  · unfold QueryService.fetch
    rw [QueryService.wp_report_bind]
    refine Program.wp_seq (wp_request_expected hchannel rfl (hmay id limit)) ?_
      fun e _ _ he => he.ofError
    intro envelope _ s _
    rw [QueryService.wp_report_bind]
    exact expected_of_readable (Batch.readable_ofEnvelope envelope)

/-- **A fetch fails as expected** where the cursor has a name. -/
theorem wp_fetchNext_expected (hmay : ∀ id limit body, may (c.request "PUT" id limit body))
    (deadline : Option Deadline) (hid : (s.cursors c.ref).cursorId.isSome = true) :
    (c.fetchNext deadline).wp (.hostile may fails) (fun r _ _ => Expected fails r) () s := by
  have hingest : ∀ {fetch : Program Batch} {s : Scene},
      fetch.wp (.hostile may fails) (fun r _ _ => Expected fails r) () s →
        (fetch >>= c.ingest).wp (.hostile may fails) (fun r _ _ => Expected fails r) () s :=
    fun hfetch => Program.wp_seq hfetch (fun b w s _ => wp_ingest_expected hfails b)
      fun e _ _ he => he.ofError
  refine wp_fetchNext_of ?_ ?_
  · exact hingest (wp_fetchBatch_expected hchannel hfails hmay deadline hid)
  · refine hingest ((wp_fetchAlone deadline _).2 ?_)
    split
    · rintro _ ⟨⟩
      exact .inl rfl
    · -- the flag has no part in the name
      refine wp_fetchBatch_expected hchannel hfails hmay deadline ?_
      rw [Scene.changeCursor_cursors_self]
      exact hid

end Fetching

end Cursor

/-! ### Where no exchange comes to anything -/

section Dead

variable {s : Scene}

/-- A call fails where no exchange comes to anything. -/
theorem Gateway.wp_request_dead (g : Gateway) (mode : Mode) (call : Call) :
    (g.request mode call).wp .dead (fun r _ _ => ∃ e, r = .error e) () s := by
  have hexchange : (g.exchange mode call).wp .dead (fun r _ _ => ∃ e, r = .error e) () s := by
    unfold exchange
    split
    · exact ⟨_, rfl⟩
    · rw [Program.wp_bind, Program.wp_ofExcept]
      cases call.payload.encodePayload with
      | error e => exact ⟨e, rfl⟩
      | ok body =>
        rw [Program.chain_ok]
        refine Program.wp_lines_bind logless_true _ _ _ trivial fun _ s _ => ?_
        rw [Program.wp_bind, Program.wp_send]
        refine ⟨trivial, ?_⟩
        rintro w reply s' ⟨e, rfl⟩
        exact ⟨e, rfl⟩
  unfold request
  refine Program.wp_seq hexchange ?_ fun e _ _ _ => ⟨e, rfl⟩
  rintro response w s ⟨e, he⟩
  cases he

namespace Cursor

theorem wp_fetchBatch_dead (deadline : Option Deadline) :
    (c.fetchBatch deadline).wp .dead (fun r _ _ => ∃ e, r = .error e) () s := by
  refine wp_fetchBatch_of (fun _ => ⟨_, rfl⟩) (fun _ e _ _ => ⟨e, rfl⟩) fun id limit _ _ => ?_
  unfold QueryService.fetch
  rw [QueryService.wp_report_bind]
  refine Program.wp_seq (Gateway.wp_request_dead _ _ _) ?_ fun e _ _ _ => ⟨e, rfl⟩
  rintro envelope w s ⟨e, he⟩
  cases he

/-- **A fetch fails** where no exchange comes to anything. -/
theorem wp_fetchNext_dead (deadline : Option Deadline) :
    (c.fetchNext deadline).wp .dead (fun r _ _ => ∃ e, r = .error e) () s := by
  have hingest : ∀ {fetch : Program Batch} {s : Scene},
      fetch.wp .dead (fun r _ _ => ∃ e, r = .error e) () s →
        (fetch >>= c.ingest).wp .dead (fun r _ _ => ∃ e, r = .error e) () s := by
    intro fetch s hfetch
    refine Program.wp_seq hfetch ?_ fun e _ _ _ => ⟨e, rfl⟩
    rintro b w s ⟨e, he⟩
    cases he
  refine wp_fetchNext_of ?_ ?_
  · exact hingest (wp_fetchBatch_dead deadline)
  · refine hingest ((wp_fetchAlone deadline _).2 ?_)
    split
    · exact ⟨_, rfl⟩
    · exact wp_fetchBatch_dead deadline

end Cursor

end Dead

end AqlClient
