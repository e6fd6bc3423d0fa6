import AqlClient.Proofs.Cursor.Serving

/-!
# Batch by batch

When only the next batch is ever asked for, the calls give the batches of the server one by one, and
nothing once there are no more. Each batch behind the first costs one fetch, and is asked for by the
call that gives it (`Database.nextBatch_aligned`).

Whether a call fetches is decided by what the cursor holds. A first batch without items is therefore
passed over when more are announced: the first call asks for the second one at once
(`Batch.due`, `Cursor.nextBatch_passes_over`). An empty batch further behind has a call of its own,
since it arrives within that.
-/

namespace AqlClient

variable {α ω : Type} {c : Cursor α}

namespace Batch

/-- The items of a batch by its number, none behind the last batch. -/
def itemsAt (pages : List Batch) (number : Nat) : List Value :=
  (pages[number]?.map results).getD []

/-- The batches that calls for the next batch give. -/
def due (first : Batch) (rest : List Batch) : List Batch :=
  if first.results = [] then rest else first :: rest

/-- The number of fetches within a number of calls for the next batch. -/
def asked (first : Batch) (rest : List Batch) (calls : Nat) : Nat :=
  if first.results = [] then min calls rest.length else min (calls - 1) rest.length

/-- The items of the first batches, mapped one by one. -/
def dealt (f : Value → α) (pages : List Batch) (calls : Nat) : List (List α) :=
  (List.range calls).map fun number => (itemsAt pages number).map f

variable (f : Value → α)

theorem dealt_nil_succ (calls : Nat) : dealt f [] (calls + 1) = [] :: dealt f [] calls := by
  unfold dealt
  rw [List.range_succ_eq_map, List.map_cons, List.map_map]
  rfl

theorem dealt_cons_succ (b : Batch) (rest : List Batch) (calls : Nat) :
    dealt f (b :: rest) (calls + 1) = b.results.map f :: dealt f rest calls := by
  unfold dealt
  rw [List.range_succ_eq_map, List.map_cons, List.map_map]
  rfl

end Batch

namespace Cursor

/-- Asks for the next batch a number of times. -/
def nextBatches (c : Cursor α) : Nat → Program (List (List α))
  | 0 => pure []
  | n + 1 => do
    let items ← c.nextBatch
    return items :: (← nextBatches c n)

/-- **The requests of a program are a number of fetches.** -/
def Fetches (c : Cursor α) (number : Nat) (s s' : Scene) : Prop :=
  ∃ requests : List Request, requests.length = number ∧ s'.sent = s.sent ++ requests ∧
    ∀ q ∈ requests, ∃ id limit, q = c.request "PUT" id limit none

variable {s s' s'' : Scene} {w : ω} {held : List Value} {passed : Nat} {b : Batch}
  {rest : List Batch} {number : Nat}

theorem Fetches.of_still (h : s.Still s') : c.Fetches 0 s s' :=
  ⟨[], rfl, by rw [h.sent, List.append_nil], fun _ hq => nomatch hq⟩

theorem Fetches.trans {more : Nat} (h : c.Fetches number s s') (h' : c.Fetches more s' s'') :
    c.Fetches (number + more) s s'' := by
  obtain ⟨requests, rfl, hsent, hall⟩ := h
  obtain ⟨requests', rfl, hsent', hall'⟩ := h'
  refine ⟨requests ++ requests', List.length_append, ?_, fun q hq => ?_⟩
  · rw [hsent', hsent, List.append_assoc]
  · exact (List.mem_append.1 hq).elim (hall q) (hall' q)

theorem Asked.fetches (h : c.Asked s s') : c.Fetches 1 s s' := by
  obtain ⟨id, limit, hexchanged⟩ := h
  refine ⟨[c.request "PUT" id limit none], rfl, hexchanged.sent, fun q hq => ?_⟩
  rw [List.mem_singleton.1 hq]
  exact ⟨id, limit, rfl⟩

/-! ### One call -/

/-- What a cursor holds is given without a fetch, and so is nothing where no batch is to come. -/
theorem Stocked.wp_nextBatch_held (h : c.Stocked held passed rest s)
    (hheld : held ≠ [] ∨ rest = []) :
    c.nextBatch.wp .alone (fun r _ s' => r = c.mapper.convert passed held ∧ s.Still s' ∧
      ∀ items, r = .ok items → c.Stocked [] (passed + held.length) rest s') w s := by
  have hneeds : ¬ (s.cursors c.ref).needsFetch = true := by
    rw [h.state.needsFetch]
    rintro ⟨hempty, hrest⟩
    exact hheld.elim (fun hne => hne hempty) hrest
  unfold nextBatch
  rw [wp_look, if_neg hneeds]
  exact h.wp_drain

/-- Where nothing is held, the next batch is fetched and given. -/
theorem Stocked.wp_nextBatch_fetch (hchannel : c.service.gateway.channel = some c.service.mode)
    (h : c.Stocked [] passed (b :: rest) s) :
    c.nextBatch.wp .alone (fun r _ s' => r = c.mapper.convert passed b.results ∧ c.Asked s s' ∧
      ∀ items, r = .ok items → c.Stocked [] (passed + b.results.length) rest s') w s := by
  unfold nextBatch
  rw [wp_look, if_pos (h.state.needsFetch.2 ⟨rfl, List.cons_ne_nil _ _⟩)]
  refine Program.wp_seq (h.wp_fetchNext hchannel fun _ hd => nomatch hd) ?_ fun _ _ _ h =>
    nomatch h.1
  rintro _ w s₁ ⟨-, hstocked, hasked⟩
  refine Program.wp_mono hstocked.wp_drain ?_
  rintro r w s' ⟨hr, hstill, hleft⟩
  exact ⟨hr, hasked.still hstill, hleft⟩

/-! ### Any number of calls -/

section Calls

variable (hchannel : c.service.gateway.channel = some c.service.mode) {f : Value → α}

include hchannel

/-- Where nothing is held, calls give the batches that are to come. -/
theorem Stocked.wp_nextBatches (h : c.Stocked [] passed rest s)
    (hmapper : ∀ b ∈ rest, ∀ item ∈ b.results, c.mapper item = .ok (f item)) (calls : Nat) :
    (c.nextBatches calls).wp .alone (fun r _ s' => r = .ok (Batch.dealt f rest calls) ∧
      c.Fetches (min calls rest.length) s s') w s := by
  -- on the calls: each of them finds nothing held, as the one before has left it
  induction calls generalizing s passed rest w with
  | zero =>
    rw [Nat.zero_min]
    exact ⟨rfl, .of_still (.refl s)⟩
  | succ n ih =>
    unfold nextBatches
    cases rest with
    | nil =>
      refine Program.wp_seq (h.wp_nextBatch_held (.inr rfl)) ?_ fun e _ _ h => nomatch h.1
      rintro items w s₁ ⟨⟨⟩, hstill, hleft⟩
      refine Program.wp_seq (ih (hleft [] rfl) hmapper) ?_ fun e _ _ h => nomatch h.1
      rintro more w s' ⟨⟨⟩, hfetches⟩
      have hall := (Fetches.of_still hstill).trans hfetches
      rw [Nat.zero_add, List.length_nil, Nat.min_zero] at hall
      rw [Batch.dealt_nil_succ, List.length_nil, Nat.min_zero]
      exact ⟨rfl, hall⟩
    | cons b rest =>
      have hitems := Mapper.convert_of_forall (hmapper b List.mem_cons_self) passed
      refine Program.wp_seq (h.wp_nextBatch_fetch hchannel) ?_ ?_
      · rintro items w s₁ ⟨hr, hasked, hleft⟩
        obtain rfl : items = b.results.map f := Except.ok.inj (hr.trans hitems)
        refine Program.wp_seq (ih (hleft _ rfl) fun b' hb' => hmapper b' (List.mem_cons_of_mem b hb'))
          ?_ fun e _ _ h => nomatch h.1
        rintro more w s' ⟨⟨⟩, hfetches⟩
        have hall := hasked.fetches.trans hfetches
        rw [Nat.add_comm, ← Nat.add_min_add_right] at hall
        rw [Batch.dealt_cons_succ]
        exact ⟨rfl, hall⟩
      · rintro e w s₁ ⟨hr, -, -⟩
        cases hr.trans hitems

/-- **Calls for the next batch give the batches that are due.** -/
theorem Stocked.wp_nextBatches_due {first : Batch} (h : c.Stocked first.results passed rest s)
    (hmapper : ∀ b ∈ first :: rest, ∀ item ∈ b.results, c.mapper item = .ok (f item))
    (calls : Nat) :
    (c.nextBatches calls).wp .alone (fun r _ s' =>
      r = .ok (Batch.dealt f (Batch.due first rest) calls) ∧
        c.Fetches (Batch.asked first rest calls) s s') w s := by
  have hrest : ∀ b ∈ rest, ∀ item ∈ b.results, c.mapper item = .ok (f item) :=
    fun b hb => hmapper b (List.mem_cons_of_mem first hb)
  unfold Batch.due Batch.asked
  by_cases hempty : first.results = []
  · rw [if_pos hempty, if_pos hempty]
    rw [hempty] at h
    exact h.wp_nextBatches hchannel hrest calls
  · rw [if_neg hempty, if_neg hempty]
    cases calls with
    | zero =>
      rw [Nat.zero_sub, Nat.zero_min]
      exact ⟨rfl, .of_still (.refl s)⟩
    | succ n =>
      -- the first call gives what is held already, and the others give what is to come
      have hitems := Mapper.convert_of_forall (hmapper first List.mem_cons_self) passed
      unfold nextBatches
      refine Program.wp_seq (h.wp_nextBatch_held (.inl hempty)) ?_ ?_
      · rintro items w s₁ ⟨hr, hstill, hleft⟩
        obtain rfl : items = first.results.map f := Except.ok.inj (hr.trans hitems)
        refine Program.wp_seq ((hleft _ rfl).wp_nextBatches hchannel hrest n) ?_ fun e _ _ h =>
          nomatch h.1
        rintro more w s' ⟨⟨⟩, hfetches⟩
        have hall := (Fetches.of_still hstill).trans hfetches
        rw [Nat.zero_add] at hall
        rw [Batch.dealt_cons_succ]
        exact ⟨rfl, hall⟩
      · rintro e w s₁ ⟨hr, -, -⟩
        cases hr.trans hitems

end Calls

end Cursor

/-- **The next batch is the next batch of the server.** A query has been submitted to a server that
serves its results in batches, and calls for the next batch are all that is ever made. The calls
give the batches one by one, and nothing behind the last one; each batch behind the first is fetched
by the call that gives it, and nothing else is sent. Only a first batch without items is passed
over, if more are announced. -/
theorem Database.nextBatch_aligned {d : Database} {q : Query} {mapper : Mapper α}
    {request timeout : Option Int} {first : Batch} {rest : List Batch} {body : Option String}
    {f : Value → α} {s₀ : Scene} (hbody : (Value.ofNamed q.payload).encodePayload = .ok body)
    (hpaged : Batch.Paged (first :: rest)) (hserved : mapper.Serves (first :: rest) s₀.script)
    (hmapper : ∀ b ∈ first :: rest, ∀ item ∈ b.results, mapper item = .ok (f item)) :
    ∃ c s₁, (d.cursor q mapper request timeout).run s₀ = (.ok c, s₁) ∧
      ∀ calls, ∃ s₂,
        (c.nextBatches calls).run s₁ = (.ok (Batch.dealt f (Batch.due first rest) calls), s₂) ∧
        c.Fetches (Batch.asked first rest calls) s₁ s₂ := by
  obtain ⟨c, hc, hservice, rfl, -, -, hstocked, -⟩ := (Program.wp_alone (w := ()) _).1
    (Database.wp_made_stocked hbody hpaged hserved)
  rw [cursor_eq]
  have hchannel : c.service.gateway.channel = some c.service.mode := by
    rw [hservice]
    rfl
  refine ⟨c, _, Prod.ext hc rfl, fun calls => ?_⟩
  obtain ⟨hr, hfetches⟩ := (Program.wp_alone (w := ()) _).1
    (hstocked.wp_nextBatches_due hchannel hmapper calls)
  exact ⟨_, Prod.ext hr rfl, hfetches⟩

/-- Four calls over three batches, the second of which is empty. -/
theorem Database.nextBatch_aligned_specimen : ∃ (c : Cursor Value) (s₁ s₂ : Scene)
      (body : Option String) (first second third : Batch),
    (Value.ofNamed Query.specimen.payload).encodePayload = .ok body ∧
    Batch.Paged [first, second, third] ∧
    Mapper.raw.Serves [first, second, third] Scene.served.script ∧
    (∀ b ∈ [first, second, third], ∀ item ∈ b.results, Mapper.raw item = .ok (id item)) ∧
    ((specimen .blocking).cursor Query.specimen Mapper.raw none none).run Scene.served =
      (.ok c, s₁) ∧
    (c.nextBatches 4).run s₁ =
      (.ok (Batch.dealt id (Batch.due first [second, third]) 4), s₂) ∧
    c.Fetches (Batch.asked first [second, third] 4) s₁ s₂ := by
  obtain ⟨first, second, third, hpaged, -, -, hserves⟩ := Scene.served_pages
  obtain ⟨body, hbody⟩ := Query.specimen_written
  have hmapper : ∀ b ∈ [first, second, third], ∀ item ∈ b.results,
      Mapper.raw item = .ok (id item) := fun _ _ _ _ => rfl
  obtain ⟨c, s₁, hopen, hcalls⟩ := @nextBatch_aligned Value (specimen .blocking) Query.specimen
    Mapper.raw none none first [second, third] body id Scene.served hbody hpaged hserves hmapper
  obtain ⟨s₂, hrun, hfetches⟩ := hcalls 4
  exact ⟨c, s₁, s₂, body, first, second, third, hbody, hpaged, hserves, hmapper, hopen, hrun,
    hfetches⟩

/-- Whether a cursor has got a batch without items, and the first call for the next batch sends a
request and gives an item. -/
def Cursor.isPassedOver (c : Cursor Value) (s : Scene) : Bool :=
  let r := c.nextBatch.run s
  (s.cursors c.ref).batches == 1 && (s.cursors c.ref).buffer.isEmpty &&
    r.2.sent.length == s.sent.length + 1 &&
    match r.1 with
    | .ok [_] => true
    | _ => false

/-- **A first batch without items is passed over:** the first call sends a request, and gives the
second batch. -/
theorem Cursor.nextBatch_passes_over : ∃ (c : Cursor Value) (s₁ s₂ : Scene) (item : Value),
    ((Database.specimen .blocking).cursor Query.specimen Mapper.raw none none).run
      (Scene.start 0 [.specimen, lastBatch]) = (.ok c, s₁) ∧
    (s₁.cursors c.ref).batches = 1 ∧ (s₁.cursors c.ref).buffer = [] ∧
    c.nextBatch.run s₁ = (.ok [item], s₂) ∧ s₂.sent.length = s₁.sent.length + 1 := by
  let made := ((Database.specimen .blocking).cursor Query.specimen Mapper.raw none none).run
    (Scene.start 0 [.specimen, lastBatch])
  have hcheck : (made.1.toOption.any fun c => c.isPassedOver made.2) = true := by decide +kernel
  obtain ⟨c, hc, hpassed⟩ := (Option.any_eq_true _ _).1 hcheck
  unfold isPassedOver at hpassed
  rw [Bool.and_eq_true, Bool.and_eq_true, Bool.and_eq_true, beq_iff_eq, beq_iff_eq,
    List.isEmpty_iff] at hpassed
  obtain ⟨⟨⟨hone, hempty⟩, hsent⟩, hend⟩ := hpassed
  split at hend
  case h_2 => cases hend
  case h_1 item hitem =>
    exact ⟨c, made.2, _, item, Program.run_of_toOption hc, hone, hempty, Prod.ext hitem rfl, hsent⟩

end AqlClient
