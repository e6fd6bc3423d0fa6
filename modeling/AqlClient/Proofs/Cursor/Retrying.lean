import AqlClient.Proofs.Cursor.Asking

/-!
# Trying again

A caller who makes a call again for as long as the transport fails (`Persists`) notices nothing else
of these failures: with a script into which failures of the transport have been inserted
(`Interruptions`) the same calls give the same results, leave the cursor in the same state, and send
what they would have sent, with one more request for each failure, equal to the one that is sent
again (`Retried`).

The proof goes along the outcomes that the calls use up, one fetch after the other: the second run
lags behind the first one by a number of interruptions (`Cursor.Lags`), and catches up with those
that it meets (`Cursor.Caught`).
-/

namespace AqlClient

variable {α β : Type}

/-! ### Interruptions -/

/-- **A script with interruptions:** a number of them have been inserted in front of outcomes. -/
inductive Interruptions : Nat → List Outcome → List Outcome → Prop
  | none : Interruptions 0 [] []
  | keep {n : Nat} {used used' : List Outcome} (o : Outcome) :
      Interruptions n used used' → Interruptions n (o :: used) (o :: used')
  | insert {n : Nat} {o : Outcome} {used used' : List Outcome} {failure : Outcome} :
      failure.Interrupts → Interruptions n (o :: used) used' →
        Interruptions (n + 1) (o :: used) (failure :: used')

/-- **Requests some of which are sent again:** each of a number of them is followed by itself. -/
inductive Retried : Nat → List Request → List Request → Prop
  | none : Retried 0 [] []
  | keep {n : Nat} {sent sent' : List Request} (q : Request) :
      Retried n sent sent' → Retried n (q :: sent) (q :: sent')
  | again {n : Nat} {q : Request} {sent sent' : List Request} :
      Retried n (q :: sent) sent' → Retried (n + 1) (q :: sent) (q :: sent')

theorem Retried.append {m n : Nat} {sent sent' more more' : List Request} (h : Retried m sent sent')
    (h' : Retried n more more') : Retried (m + n) (sent ++ more) (sent' ++ more') := by
  -- on the requests in front, whether they are sent again or not
  induction h with
  | none =>
    rw [Nat.zero_add]
    exact h'
  | keep q _ ih => exact .keep q ih
  | @again m q sent sent' _ ih =>
    rw [Nat.succ_add]
    exact .again ih

/-! ### Callers who try again -/

/-- **A call that is made again for as long as the transport fails:** what it comes to in the end.
-/
inductive Persists (p : Program β) : Scene → Except Failure β → Scene → Prop
  | ends {s t : Scene} {r : Except Failure β} : p.run s = (r, t) → ¬ Except.Interrupted r →
      Persists p s r t
  | again {s s₁ t : Scene} {e : Failure} {r : Except Failure β} : p.run s = (.error e, s₁) →
      e.isTransport = true → Persists p s₁ r t → Persists p s r t

namespace Persists

variable {p : Program β} {s s₁ t t' : Scene} {r r' : Except Failure β}

/-- What such a call comes to is certain. -/
theorem unique (h : Persists p s r t) (h' : Persists p s r' t') : r' = r ∧ t' = t := by
  -- on the attempts, each of which has only one end
  induction h with
  | ends hrun hdone =>
    cases h' with
    | ends hrun' _ =>
      rw [hrun] at hrun'
      cases hrun'
      exact ⟨rfl, rfl⟩
    | again hrun' htransport _ =>
      rw [hrun] at hrun'
      cases hrun'
      exact absurd ⟨_, rfl, htransport⟩ hdone
  | again hrun htransport _ ih =>
    cases h' with
    | ends hrun' hdone =>
      rw [hrun] at hrun'
      cases hrun'
      exact absurd ⟨_, rfl, htransport⟩ hdone
    | again hrun' _ hrest =>
      rw [hrun] at hrun'
      cases hrun'
      exact ih hrest

/-- A call from two scenes from which it runs alike. -/
theorem of_run_eq (h : Persists p s r t) (hrun : p.run s₁ = p.run s) : Persists p s₁ r t := by
  cases h with
  | ends hends hdone => exact .ends (hrun.trans hends) hdone
  | again hfails htransport hrest => exact .again (hrun.trans hfails) htransport hrest

/-- A call that is not interrupted is made once. -/
theorem once (h : ¬ Except.Interrupted (p.run s).1) : Persists p s (p.run s).1 (p.run s).2 :=
  .ends rfl h

/-- Such a call ends behind the scene in which it starts. -/
theorem before (h : Persists p s r t) : s.Before t := by
  induction h with
  | ends hrun _ => exact Program.before_of_run hrun
  | again hrun _ _ ih => exact (Program.before_of_run hrun).trans ih

end Persists

namespace Cursor

/-! ### Two runs side by side -/

/-- **One scene lags behind another one:** in front of what is left in the end, a number of
interruptions have been inserted into its script. The cursor is in the same state in both. -/
structure Lags (c : Cursor α) (rest : List Outcome) (n : Nat) (s s' : Scene) : Prop where
  script : ∃ used used', s.script = used ++ rest ∧ s'.script = used' ++ rest ∧
    Interruptions n used used'
  state : s'.cursors c.ref = s.cursors c.ref
  prepared : (s.cursors c.ref).Prepared

/-- The requests of a cursor for a further batch, when no deadline is set for them. -/
def Asks (c : Cursor α) (q : Request) : Prop := ∃ id, q = c.request "PUT" id c.plainLimit none

/-- **A run has caught up** with some of the interruptions: for each of them it has sent a request
again. -/
def Caught (c : Cursor α) (rest : List Outcome) (n : Nat) (s s' t t' : Scene) : Prop :=
  ∃ m k sent sent', n = k + m ∧ c.Lags rest m t t' ∧ t.sent = s.sent ++ sent ∧
    t'.sent = s'.sent ++ sent' ∧ Retried k sent sent' ∧ ∀ q ∈ sent, c.Asks q

section Fetching

variable {c : Cursor α} {s s₁ s' s₁' t t' : Scene} {rest : List Outcome} {n : Nat}
  {r₁ : Except Failure Unit} {p after : Program β} {r : Except Failure β}

/-- A call that needs a fetch ends behind it. -/
theorem Asking.before (h : c.Asking p after) (hneeds : (s.cursors c.ref).needsFetch = true)
    (hrun : (c.fetchNext none).run s = (r₁, s₁)) (hfetch : c.Fetch s r₁ s₁)
    (hpersists : Persists p s r t) : s₁.Before t := by
  cases r₁ with
  | error e =>
    -- the call fails with the fetch, and is made again from there if at all
    have hfails := h.fails hneeds hrun
    cases hpersists with
    | ends hends _ =>
      rw [hfails] at hends
      cases hends
      exact .refl _
    | again hagain _ hrest =>
      rw [hfails] at hagain
      cases hagain
      exact hrest.before
  | ok _ =>
    -- the first attempt is what follows behind the fetch
    have hfollows := h.follows hneeds hrun hfetch.opened hfetch.shorter
    cases hpersists with
    | ends hends _ =>
      rw [hfollows] at hends
      exact Program.before_of_run hends
    | again hagain _ hrest =>
      rw [hfollows] at hagain
      exact (Program.before_of_run hagain).trans hrest.before

/-! ### Catching up -/

/-- Nothing has happened in either run. -/
theorem Caught.of_still (h : c.Lags rest n s s') (ht : s.Still t) (ht' : s'.Still t')
    (hstate : t'.cursors c.ref = t.cursors c.ref) (hprepared : (t.cursors c.ref).Prepared) :
    c.Caught rest n s s' t t' := by
  obtain ⟨used, used', hs, hs', hinterruptions⟩ := h.script
  refine ⟨n, 0, [], [], (Nat.zero_add n).symm, ⟨⟨used, used', ?_, ?_, hinterruptions⟩, hstate,
    hprepared⟩, ?_, ?_, .none, fun q hq => nomatch hq⟩
  · rw [ht.script, hs]
  · rw [ht'.script, hs']
  · rw [ht.sent, List.append_nil]
  · rw [ht'.sent, List.append_nil]

/-- The same fetch has been made in both runs. -/
theorem Caught.fetch {q : Request} (hq : c.Asks q) (hs : s.Exchanged q s₁)
    (hs' : s'.Exchanged q s₁') (h : c.Caught rest n s₁ s₁' t t') : c.Caught rest n s s' t t' := by
  obtain ⟨m, k, sent, sent', hn, hlags, hsent, hsent', hretried, hasks⟩ := h
  refine ⟨m, k, q :: sent, q :: sent', hn, hlags, ?_, ?_, .keep q hretried, ?_⟩
  · rw [hsent, hs.sent, List.append_assoc]
    rfl
  · rw [hsent', hs'.sent, List.append_assoc]
    rfl
  · intro q' hq'
    obtain rfl | hmem := List.mem_cons.1 hq'
    · exact hq
    · exact hasks q' hmem

/-- **The second run has made a fetch in vain** that the first one is about to make. -/
theorem Caught.retry {q : Request} (hfirst : ∃ more, t.sent = s.sent ++ q :: more)
    (hs' : s'.Exchanged q s₁') (h : c.Caught rest n s s₁' t t') :
    c.Caught rest (n + 1) s s' t t' := by
  obtain ⟨more, hfirst⟩ := hfirst
  obtain ⟨m, k, sent, sent', hn, hlags, hsent, hsent', hretried, hasks⟩ := h
  obtain rfl : sent = q :: more := List.append_cancel_left (hsent.symm.trans hfirst)
  refine ⟨m, k + 1, q :: more, q :: sent', by omega, hlags, hsent, ?_, .again hretried, hasks⟩
  rw [hsent', hs'.sent, List.append_assoc]
  rfl

theorem Caught.trans {u u' : Scene} (h : c.Caught rest n s s' t t')
    (h' : ∀ k, c.Lags rest k t t' → c.Caught rest k t t' u u') : c.Caught rest n s s' u u' := by
  obtain ⟨m, k, sent, sent', hn, hlags, hsent, hsent', hretried, hasks⟩ := h
  obtain ⟨m', k', more, more', hm, hlags', hmore, hmore', hretried', hasks'⟩ := h' m hlags
  refine ⟨m', k + k', sent ++ more, sent' ++ more', by omega, hlags', ?_, ?_,
    hretried.append hretried', ?_⟩
  · rw [hmore, hsent, List.append_assoc]
  · rw [hmore', hsent', List.append_assoc]
  · intro q hq
    exact (List.mem_append.1 hq).elim (hasks q) (hasks' q)

/-- A call that needs no fetch comes to the same in both runs, at the first attempt. -/
theorem Immediate.run (himmediate : c.Immediate p (s.cursors c.ref)) (hlags : c.Lags rest n s s') :
    ∃ r t t', p.run s = (r, t) ∧ p.run s' = (r, t') ∧ ¬ Except.Interrupted r ∧
      c.Caught rest n s s' t t' := by
  obtain ⟨r, state₀, hdone, hkeeps, hcomes⟩ := himmediate
  obtain ⟨hr, hstate, hstill⟩ := (Program.wp_alone p).1 (hcomes s rfl)
  obtain ⟨hr', hstate', hstill'⟩ := (Program.wp_alone p).1 (hcomes s' hlags.state)
  refine ⟨r, (p.run s).2, (p.run s').2, Prod.ext hr rfl, Prod.ext hr' rfl, hdone,
    .of_still hlags hstill hstill' (hstate'.trans hstate.symm) ?_⟩
  rw [hstate]
  exact hkeeps hlags.prepared

/-- A call that needs no fetch is made once in either run. -/
theorem Asking.persists_immediate (h : c.Asking p after) (hlags : c.Lags rest n s s')
    (hfull : ¬ (s.cursors c.ref).needsFetch = true) (hpersists : Persists p s r t) :
    ∃ t', Persists p s' r t' ∧ c.Caught rest n s s' t t' := by
  obtain ⟨r₀, t₀, t₀', hends, hends', hdone, hcaught⟩ := (h.immediate _ hfull).run hlags
  obtain ⟨rfl, rfl⟩ := Persists.unique (.ends hends hdone) hpersists
  exact ⟨t₀', .ends hends' hdone, hcaught⟩

section Catching

variable (h : c.Asking p after) (hchannel : c.service.gateway.channel = some c.service.mode)

include h hchannel

/-- An interrupted fetch makes the call fail, and it finds everything as it was when it is tried
again. -/
theorem Asking.interrupted (hprepared : (s.cursors c.ref).Prepared)
    (hneeds : (s.cursors c.ref).needsFetch = true)
    (ho : (s.script.headD .scriptEnd).Interrupts) :
    ∃ e s₁, p.run s = (.error e, s₁) ∧ e.isTransport = true ∧
      s₁.cursors c.ref = s.cursors c.ref ∧ s.Exchanged (c.nextRequest (s.cursors c.ref)) s₁ := by
  cases hrun : (c.fetchNext none).run s with
  | mk r₁ s₁ =>
    have hfetch := run_fetchNext hchannel hprepared hneeds hrun
    obtain ⟨hstate, e, rfl, htransport⟩ := hfetch.interrupted ho
    exact ⟨e, s₁, h.fails hneeds hrun, htransport, hstate, hfetch.exchanged⟩

/-- **Once the script is over there is no end to trying again.** -/
theorem Asking.not_persists (hpersists : Persists p s r t) (hscript : s.script = [])
    (hprepared : (s.cursors c.ref).Prepared) : ¬ (s.cursors c.ref).needsFetch = true := by
  induction hpersists with
  | @ends s t r hends hdone =>
    intro hneeds
    obtain ⟨e, s₁, hfails, htransport, -, -⟩ := h.interrupted hchannel hprepared hneeds
      (by rw [hscript]; exact scriptEnd_interrupts)
    rw [hfails] at hends
    cases hends
    exact hdone ⟨e, rfl, htransport⟩
  | @again s s₁ t e r hagain htransport _ ih =>
    intro hneeds
    obtain ⟨e', s₁', hfails, -, hstate, hexchanged⟩ := h.interrupted hchannel hprepared hneeds
      (by rw [hscript]; exact scriptEnd_interrupts)
    rw [hfails] at hagain
    cases hagain
    -- the next attempt finds everything as this one did
    refine ih ?_ (hstate ▸ hprepared) (hstate ▸ hneeds)
    rw [hexchanged.script, hscript]
    rfl

/-- A call that needs a fetch has not ended while all is left that is left in the end. -/
theorem Asking.used (hlags : c.Lags rest n s s') (hscript : s.script = rest)
    (hneeds : (s.cursors c.ref).needsFetch = true) (hpersists : Persists p s r t)
    (hrest : rest <:+ t.script) : False := by
  cases hrun : (c.fetchNext none).run s with
  | mk r₁ s₁ =>
    have hfetch := run_fetchNext hchannel hlags.prepared hneeds hrun
    have hlength := (hrest.trans (h.before hneeds hrun hfetch hpersists).script).length_le
    rw [hfetch.exchanged.script, hscript, List.length_tail] at hlength
    have hover : s.script = [] := by
      rw [hscript]
      exact List.length_eq_zero_iff.1 (by omega)
    exact h.not_persists hchannel hpersists hover hlags.prepared hneeds

/-- **The second run is interrupted,** and goes on as it would have without. -/
theorem Asking.persists_interrupted {m : Nat} (hlags : c.Lags rest m s s')
    (hneeds : (s.cursors c.ref).needsFetch = true) (hpersists : Persists p s r t)
    (ho : (s'.script.headD .scriptEnd).Interrupts)
    (hrest : ∀ s₁', s₁'.script = s'.script.tail → s₁'.cursors c.ref = s.cursors c.ref →
      ∃ t', Persists p s₁' r t' ∧ c.Caught rest n s s₁' t t') :
    ∃ t', Persists p s' r t' ∧ c.Caught rest (n + 1) s s' t t' := by
  have hstate : s'.cursors c.ref = s.cursors c.ref := hlags.state
  obtain ⟨e, s₁', hfails, htransport, hsame, hexchanged'⟩ :=
    h.interrupted hchannel (hstate ▸ hlags.prepared) (hstate ▸ hneeds) ho
  obtain ⟨t', hpersists', hcaught⟩ := hrest s₁' hexchanged'.script (hsame.trans hstate)
  refine ⟨t', .again hfails htransport hpersists', ?_⟩
  rw [hstate] at hexchanged'
  -- the first run is about to send the same request
  cases hrun : (c.fetchNext none).run s with
  | mk r₁ s₁ =>
    have hfetch := run_fetchNext hchannel hlags.prepared hneeds hrun
    obtain ⟨more, hmore⟩ := (h.before hneeds hrun hfetch hpersists).sent
    refine hcaught.retry ⟨more, ?_⟩ hexchanged'
    rw [hmore, hfetch.exchanged.sent, List.append_assoc]
    rfl

/-- **Both runs make the same fetch.** -/
theorem Asking.persists_fetch (hafter : after = p ∨ ∀ state, c.Immediate after state)
    (hlags : c.Lags rest n s s') (hneeds : (s.cursors c.ref).needsFetch = true)
    (hpersists : Persists p s r t)
    (hhead : s'.script.headD .scriptEnd = s.script.headD .scriptEnd)
    (hlags₁ : ∀ s₁ s₁', s₁.script = s.script.tail → s₁'.script = s'.script.tail →
      s₁'.cursors c.ref = s₁.cursors c.ref → (s₁.cursors c.ref).Prepared → c.Lags rest n s₁ s₁')
    (hrest : ∀ s₁ s₁', s₁.script = s.script.tail → s₁'.script = s'.script.tail →
      c.Lags rest n s₁ s₁' → Persists p s₁ r t →
      ∃ t', Persists p s₁' r t' ∧ c.Caught rest n s₁ s₁' t t') :
    ∃ t', Persists p s' r t' ∧ c.Caught rest n s s' t t' := by
  have hstate : s'.cursors c.ref = s.cursors c.ref := hlags.state
  have hneeds' : (s'.cursors c.ref).needsFetch = true := hstate ▸ hneeds
  cases hrun : (c.fetchNext none).run s with
  | mk r₁ s₁ =>
  cases hrun' : (c.fetchNext none).run s' with
  | mk r₁' s₁' =>
  have hfetch := run_fetchNext hchannel hlags.prepared hneeds hrun
  have hfetch' := run_fetchNext hchannel (hstate ▸ hlags.prepared) hneeds' hrun'
  -- the same outcome comes to the same
  have hsame : (r₁', s₁'.cursors c.ref) = (r₁, s₁.cursors c.ref) := by
    rw [hfetch.result, hfetch'.result, hhead, hstate]
  obtain ⟨rfl, hstate₁⟩ := Prod.mk.inj hsame
  have hlagging : c.Lags rest n s₁ s₁' :=
    hlags₁ s₁ s₁' hfetch.exchanged.script hfetch'.exchanged.script hstate₁ hfetch.prepared
  have hexchanged' := hfetch'.exchanged
  rw [hstate] at hexchanged'
  have hgoes : ∀ {t'}, c.Caught rest n s₁ s₁' t t' → c.Caught rest n s s' t t' :=
    fun hcaught => hcaught.fetch ⟨_, rfl⟩ hfetch.exchanged hexchanged'
  cases r₁' with
  | error e =>
    -- both calls fail here, and both are made again or neither is
    have hfails : p.run s = (.error e, s₁) := h.fails hneeds hrun
    have hfails' : p.run s' = (.error e, s₁') := h.fails hneeds' hrun'
    cases hpersists with
    | ends hends hdone =>
      rw [hfails] at hends
      cases hends
      exact ⟨s₁', .ends hfails' hdone,
        hgoes (.of_still hlagging (.refl _) (.refl _) hstate₁ hfetch.prepared)⟩
    | again hagain htransport hpersists₁ =>
      rw [hfails] at hagain
      cases hagain
      obtain ⟨t', hpersists', hcaught⟩ :=
        hrest s₁ s₁' hfetch.exchanged.script hfetch'.exchanged.script hlagging hpersists₁
      exact ⟨t', .again hfails' htransport hpersists', hgoes hcaught⟩
  | ok _ =>
    have hfollows := h.follows hneeds hrun hfetch.opened hfetch.shorter
    have hfollows' := h.follows hneeds' hrun' hfetch'.opened hfetch'.shorter
    obtain rfl | himmediate := hafter
    · -- the call goes on as one that begins behind the fetch
      obtain ⟨t', hpersists', hcaught⟩ :=
        hrest s₁ s₁' hfetch.exchanged.script hfetch'.exchanged.script hlagging
          (hpersists.of_run_eq hfollows.symm)
      exact ⟨t', hpersists'.of_run_eq hfollows', hgoes hcaught⟩
    · -- what follows needs no further fetch
      obtain ⟨r₀, t₀, t₀', hends, hends', hdone, hcaught⟩ := (himmediate _).run hlagging
      obtain ⟨rfl, rfl⟩ := Persists.unique (.ends (hfollows.trans hends) hdone) hpersists
      exact ⟨t₀', .ends (hfollows'.trans hends') hdone, hgoes hcaught⟩

/-- **A call that is tried again for as long as the transport fails gives the same** where the
script has been interrupted, and it catches up with the interruptions that it meets. -/
theorem Asking.persists (hafter : after = p ∨ ∀ state, c.Immediate after state)
    (hlags : c.Lags rest n s s') (hpersists : Persists p s r t) (hrest : rest <:+ t.script) :
    ∃ t', Persists p s' r t' ∧ c.Caught rest n s s' t t' := by
  obtain ⟨⟨used, used', hs, hs', hinterruptions⟩, hstate, hprepared⟩ := id hlags
  -- on the outcomes that the second run uses up, one fetch after the other
  induction hinterruptions generalizing s s' with
  | none =>
    -- nothing is left of what the call may use up, so that it makes no fetch
    by_cases hneeds : (s.cursors c.ref).needsFetch = true
    · exact (h.used hchannel hlags hs hneeds hpersists hrest).elim
    · exact h.persists_immediate hlags hneeds hpersists
  | @insert m o used used' failure hfailure hinterruptions ih =>
    by_cases hneeds : (s.cursors c.ref).needsFetch = true
    · refine h.persists_interrupted hchannel hlags hneeds hpersists ?_ fun s₁' hscript hsame => ?_
      · rw [hs']
        exact hfailure
      · rw [hs'] at hscript
        exact ih ⟨⟨_, _, hs, hscript, hinterruptions⟩, hsame, hprepared⟩ hpersists hsame hprepared
          hs hscript
    · exact h.persists_immediate hlags hneeds hpersists
  | @keep m used used' o hinterruptions ih =>
    by_cases hneeds : (s.cursors c.ref).needsFetch = true
    · refine h.persists_fetch hchannel hafter hlags hneeds hpersists ?_ ?_ ?_
      · rw [hs, hs']
        rfl
      · intro s₁ s₁' hscript hscript' hsame hprepared₁
        rw [hs] at hscript
        rw [hs'] at hscript'
        exact ⟨⟨used, used', hscript, hscript', hinterruptions⟩, hsame, hprepared₁⟩
      · intro s₁ s₁' hscript hscript' hlags₁ hpersists₁
        rw [hs] at hscript
        rw [hs'] at hscript'
        exact ih hlags₁ hpersists₁ hlags₁.state hlags₁.prepared hscript hscript'
    · exact h.persists_immediate hlags hneeds hpersists

end Catching

end Fetching

/-! ### Sequences of calls -/

/-- The calls that take no more than a batch. -/
inductive Reading where
  | nextBatch
  | next
  | hasNext

/-- What such a call gives. -/
inductive Given (α : Type) where
  | batch (items : List α)
  | item (item : Option α)
  | answer (more : Bool)

/-- A call on a cursor. -/
def Reading.on (c : Cursor α) : Reading → Program (Given α)
  | .nextBatch => do return .batch (← c.nextBatch)
  | .next => do return .item (← c.next?)
  | .hasNext => do return .answer (← c.hasNext)

/-- **A caller makes some calls** one after the other, each of them for as long as the transport
fails: what they come to. -/
inductive PersistsIn (c : Cursor α) :
    List Reading → Scene → List (Except Failure (Given α)) → Scene → Prop
  | none (s : Scene) : PersistsIn c [] s [] s
  | call {call : Reading} {calls : List Reading} {s s₁ t : Scene} {r : Except Failure (Given α)}
      {results : List (Except Failure (Given α))} : Persists (call.on c) s r s₁ →
        PersistsIn c calls s₁ results t → PersistsIn c (call :: calls) s (r :: results) t

namespace PersistsIn

variable {c : Cursor α} {calls : List Reading} {s s' t t' : Scene}
  {results results' : List (Except Failure (Given α))}

theorem before (h : c.PersistsIn calls s results t) : s.Before t := by
  induction h with
  | none s => exact .refl s
  | call hcall _ ih => exact hcall.before.trans ih

/-- What the calls come to is certain. -/
theorem unique (h : c.PersistsIn calls s results t) (h' : c.PersistsIn calls s results' t') :
    results' = results ∧ t' = t := by
  induction h generalizing results' t' with
  | none s =>
    cases h'
    exact ⟨rfl, rfl⟩
  | call hcall _ ih =>
    cases h' with
    | call hcall' hcalls' =>
      obtain ⟨rfl, rfl⟩ := hcall.unique hcall'
      obtain ⟨rfl, rfl⟩ := ih hcalls'
      exact ⟨rfl, rfl⟩

end PersistsIn

/-- Each of the calls asks for batches where it needs them. -/
theorem Reading.asking (c : Cursor α) (call : Reading) :
    ∃ after, c.Asking (call.on c) after ∧
      (after = call.on c ∨ ∀ state, c.Immediate after state) := by
  cases call with
  | nextBatch =>
    exact ⟨_, asking_nextBatch.map _, .inr fun state => (immediate_drain state).map _⟩
  | next => exact ⟨_, asking_next.map _, .inl rfl⟩
  | hasNext => exact ⟨_, asking_hasNext.map _, .inl rfl⟩

/-- **The same calls come to the same** where the script has been interrupted. -/
theorem PersistsIn.interrupted {c : Cursor α}
    (hchannel : c.service.gateway.channel = some c.service.mode) {calls : List Reading}
    {s s' t : Scene} {results : List (Except Failure (Given α))} {rest : List Outcome} {n : Nat}
    (hcalls : c.PersistsIn calls s results t)
    (hlags : c.Lags rest n s s') (hrest : rest <:+ t.script) :
    ∃ t', c.PersistsIn calls s' results t' ∧ c.Caught rest n s s' t t' := by
  induction hcalls generalizing s' n with
  | none s => exact ⟨s', .none s', .of_still hlags (.refl s) (.refl s') hlags.state hlags.prepared⟩
  | @call call calls s s₁ t r results hcall hcalls ih =>
    obtain ⟨after, hasking, hafter⟩ := call.asking c
    obtain ⟨s₁', hcall', hcaught⟩ := hasking.persists hchannel hafter hlags hcall
      (hrest.trans hcalls.before.script)
    obtain ⟨m, _, _, _, _, hlags₁, _⟩ := id hcaught
    obtain ⟨t', hcalls', -⟩ := ih hlags₁ hrest
    refine ⟨t', .call hcall' hcalls', hcaught.trans fun k hlags => ?_⟩
    -- the scenes that the calls end in do not depend on how far the second run lags behind
    obtain ⟨t'', hcalls'', hcaught'⟩ := ih hlags hrest
    obtain ⟨-, rfl⟩ := hcalls'.unique hcalls''
    exact hcaught'

end Cursor

/-- **Trying again goes unnoticed.** A caller makes some calls on the cursor of a query, whatever
has been done with the cursor before, and makes each of them again for as long as the transport
fails. If interruptions are inserted in front of outcomes that these calls use up, then the calls
come to the same results, they leave the cursor in the same state, and the requests that they send
are the same, but that one more is sent for each interruption, right before the one that it is equal
to. -/
theorem Database.retrying_unnoticed {d : Database} {q : Query} {mapper : Mapper α}
    {request timeout : Option Int} {c : Cursor α} {s₀ s₁ s t : Scene}
    (hopen : (d.cursor q mapper request timeout).run s₀ = (.ok c, s₁)) {p : Program β}
    {r : Except Failure β} (hp : c.Client p) (hbefore : p.run s₁ = (r, s))
    {used used' rest : List Outcome} {n : Nat} (hscript : s.script = used ++ rest)
    (hinterruptions : Interruptions n used used') {calls : List Cursor.Reading}
    {results : List (Except Failure (Cursor.Given α))}
    (hcalls : c.PersistsIn calls s results t) (hrest : t.script = rest) :
    ∃ t', c.PersistsIn calls { s with script := used' ++ rest } results t' ∧
      (∀ results' t'', c.PersistsIn calls { s with script := used' ++ rest } results' t'' →
        results' = results ∧ t'' = t') ∧
      t'.cursors c.ref = t.cursors c.ref ∧ t'.script = rest ∧
      ∃ sent sent', t.sent = s.sent ++ sent ∧ t'.sent = s.sent ++ sent' ∧ Retried n sent sent' ∧
        ∀ q ∈ sent, c.Asks q := by
  have hprepared : (s.cursors c.ref).Prepared := by
    have hend := cursor_prepared hopen hp
    rw [hbefore] at hend
    exact hend
  obtain ⟨hservice, -⟩ := Database.cursor_opened hopen
  have hchannel := channel_of_service hservice
  have hlags : c.Lags rest n s { s with script := used' ++ rest } :=
    ⟨⟨used, used', hscript, rfl, hinterruptions⟩, rfl, hprepared⟩
  obtain ⟨t', hcalls', m, k, sent, sent', hn, hlags', hsent, hsent', hretried, hasks⟩ :=
    hcalls.interrupted hchannel hlags (hrest ▸ List.suffix_refl _)
  obtain ⟨left, left', hleft, hleft', hinterruptions'⟩ := hlags'.script
  -- nothing is left of what the calls were to use up, so that no interruption is left either
  have hnone : left = [] := by
    rw [hrest] at hleft
    exact List.append_left_eq_self.1 hleft.symm
  subst hnone
  cases hinterruptions'
  rw [hn, Nat.add_zero]
  exact ⟨t', hcalls', fun results' t'' hother => hcalls'.unique hother, hlags'.state, hleft', sent,
    sent', hsent, hsent', hretried, hasks⟩

/-- The cursor of a query, over which two more batches are served, the first one without items. -/
def Cursor.served? : Except Failure (Cursor Value) × Scene :=
  ((Database.specimen .async).cursor Query.specimen Mapper.raw none none).run Scene.served

/-- Whether a batch and a look for more items, behind another such look, use up two outcomes. -/
def Cursor.isUsedUp (c : Cursor Value) (s : Scene) : Bool :=
  let s₁ := (c.hasNext.run s).2
  let first := (Reading.nextBatch.on c).run s₁
  let second := (Reading.hasNext.on c).run first.2
  s₁.script.length == 2 && first.1.toOption.isSome && second.1.toOption.isSome &&
    second.2.script.isEmpty

/-- A look for more items is interrupted behind a batch without any. -/
theorem Database.retrying_unnoticed_specimen : ∃ (c : Cursor Value) (s₁ s t t' : Scene)
    (results : List (Except Failure (Cursor.Given Value))),
    ((Database.specimen .async).cursor Query.specimen Mapper.raw none none).run Scene.served =
      (.ok c, s₁) ∧
    c.Client c.hasNext ∧ c.hasNext.run s₁ = ((c.hasNext.run s₁).1, s) ∧
    s.script = [.specimen, Cursor.lastBatch] ++ [] ∧
    Interruptions 1 [.specimen, Cursor.lastBatch] [.specimen, .gated, Cursor.lastBatch] ∧
    c.PersistsIn [.nextBatch, .hasNext] s results t ∧ t.script = [] ∧
    c.PersistsIn [.nextBatch, .hasNext]
      { s with script := [.specimen, .gated, Cursor.lastBatch] ++ [] } results t' ∧
    t'.cursors c.ref = t.cursors c.ref := by
  have hcheck : (Cursor.served?.1.toOption.any fun c => c.isUsedUp Cursor.served?.2) = true := by
    decide +kernel
  obtain ⟨c, hc, hused⟩ := (Option.any_eq_true _ _).1 hcheck
  have hopen := Program.run_of_toOption hc
  let s := (c.hasNext.run Cursor.served?.2).2
  let first := (Cursor.Reading.nextBatch.on c).run s
  let second := (Cursor.Reading.hasNext.on c).run first.2
  unfold Cursor.isUsedUp at hused
  simp only [Bool.and_eq_true, beq_iff_eq] at hused
  obtain ⟨⟨⟨htwo, hfirst⟩, hsecond⟩, hnone⟩ := hused
  have hdone : ∀ {r : Except Failure (Cursor.Given Value)}, r.toOption.isSome = true →
      ¬ Except.Interrupted r := by
    rintro _ hsome ⟨e, rfl, -⟩
    cases hsome
  have hleft : s.script <:+ [.page, .specimen, Cursor.lastBatch] :=
    (c.hasNext.before_run _).script.trans (Program.before_of_run hopen).script
  have hscript : s.script = [.specimen, Cursor.lastBatch] ++ [] := by
    rw [List.suffix_iff_eq_drop, htwo] at hleft
    exact hleft
  have hlost : Outcome.gated.Interrupts := fun q => ⟨_, rfl, rfl⟩
  have hinterruptions : Interruptions 1 [.specimen, Cursor.lastBatch]
      [.specimen, .gated, Cursor.lastBatch] := .keep _ (.insert hlost (.keep _ .none))
  have hcalls : c.PersistsIn [.nextBatch, .hasNext] s [first.1, second.1] second.2 :=
    .call (.once (hdone hfirst)) (.call (.once (hdone hsecond)) (.none _))
  have hrest : second.2.script = [] := List.isEmpty_iff.1 hnone
  obtain ⟨t', hcalls', -, hstate, -⟩ :=
    retrying_unnoticed hopen .hasNext rfl hscript hinterruptions hcalls hrest
  exact ⟨c, _, s, _, t', _, hopen, .hasNext, rfl, hscript, hinterruptions, hcalls, hrest, hcalls',
    hstate⟩

end AqlClient
