import AqlClient.Proofs.Cursor.Alignment

/-!
# Reading to the end

However the results of a query are divided into batches, and however a cursor over them is read to
its end, what comes of it is what the mapper makes of all of them in one piece. That covers the
failure of a mapper that does not accept an item: it names the item by its position in the whole.

What is still to be had of a stocked cursor (`Batch.ahead`) is what it holds and what is to come.
Each way of reading is a loop that takes something off its front, and each loop ends because the
script has become shorter by the time it comes round. The loops that visit items one by one are
about what a pull does (`Cursor.Puller`), and the others about what a fetch does
(`Cursor.Stocked.wp_fetchNext`).

Methods that read under a deadline need time: a limit is ample if it is longer than the time between
any two exchanges (`Value.Ample`).
-/

namespace AqlClient

variable {α β ω : Type} {c : Cursor α}

/-! ### Limits that are ample -/

theorem Deadline.Lasts.later {d : Deadline} {cap : Value} {s s' : Scene} (h : d.Lasts cap s)
    (hs : s.Later s') : d.Lasts cap s' := by
  obtain ⟨number, -, htime⟩ := hs
  intro k
  rw [htime]
  exact h (number + k)

/-- **A limit is ample:** it limits nothing, or it is longer than the time between any two exchanges
that are still to be made. -/
def Value.Ample (limit : Value) (s : Scene) : Prop :=
  limiting limit = none ∨
    ∃ ms : Int, limit = .int ms ∧ ∀ j k, s.timeAfter k < s.timeAfter j + ms

theorem Value.Ample.later {limit : Value} {s s' : Scene} (h : limit.Ample s) (hs : s.Later s') :
    limit.Ample s' := by
  obtain ⟨number, -, htime⟩ := hs
  refine h.imp_right fun ⟨ms, hlimit, hms⟩ => ⟨ms, hlimit, fun j k => ?_⟩
  rw [htime, htime]
  exact hms _ _

namespace Deadline

/-- A deadline has not passed at a given time. -/
def Pending (d : Deadline) (now : Int) : Prop :=
  d.overall = none ∨ ∃ ms : Int, d.overall = some (.int ms) ∧ now < d.started + ms

variable {d : Deadline} {cap : Value} {now : Int} {s : Scene}

/-- A deadline that has not passed leaves some time for a request. -/
theorem Pending.remaining (h : d.Pending now) (hcap : cap.MayLimit) (capLabel : Option String) :
    ∃ limit, d.remaining now cap capLabel = .ok limit := by
  unfold Deadline.remaining passesAt
  obtain hnone | ⟨ms, hms, hnow⟩ := h
  · rw [hnone]
    cases limiting cap with
    | none => exact ⟨_, rfl⟩
    | some u => exact ⟨_, rfl⟩
  · have hbelow : (Number.int now).below (.int (d.started + ms)) = true := decide_eq_true hnow
    rw [hms]
    show ∃ limit, (if (Number.int now).below (.int (d.started + ms)) = true then _ else _) =
      Except.ok limit
    rw [if_pos hbelow]
    cases hu : limiting cap with
    | none => exact ⟨_, rfl⟩
    | some u =>
      obtain ⟨n, hn⟩ := Option.isSome_iff_exists.1 (hcap u hu)
      simp only [hn]
      exact ⟨_, rfl⟩

theorem lasts_of_pending (h : ∀ k, d.Pending (s.timeAfter k)) (hcap : cap.MayLimit) :
    d.Lasts cap s := fun k => (h k).remaining hcap _

theorem pending_later {s' : Scene} (h : ∀ k, d.Pending (s.timeAfter k)) (hs : s.Later s') (k : Nat) :
    d.Pending (s'.timeAfter k) := by
  obtain ⟨number, -, htime⟩ := hs
  rw [htime]
  exact h _

variable (hnow : s.Moment now)

include hnow

/-- A method can be started within an ample limit, and it does not get late. -/
theorem starting_of_ample {limit : Value} (h : limit.Ample s) (label : Option String) :
    ∃ d, starting now limit label = .ok d ∧ ∀ k, d.Pending (s.timeAfter k) := by
  obtain ⟨j, rfl⟩ := hnow
  unfold starting
  cases hu : limiting limit with
  | none => exact ⟨_, rfl, fun _ => .inl rfl⟩
  | some u =>
    obtain hnone | ⟨ms, rfl, hms⟩ := h
    · rw [hnone] at hu
      cases hu
    · unfold limiting at hu
      split at hu
      case isFalse => cases hu
      case isTrue =>
        cases hu
        exact ⟨_, rfl, fun k => .inr ⟨ms, rfl, hms j k⟩⟩

/-- What is left of a deadline that does not pass is a limit of the same kind. -/
theorem rest_of_pending (h : ∀ k, d.Pending (s.timeAfter k)) (label : Option String) :
    ∃ rest d', d.remaining now .null none = .ok rest ∧
      starting now ((limiting rest.request).getD (.int 0)) label = .ok d' ∧
      ∀ k, d'.Pending (s.timeAfter k) := by
  obtain hnone | ⟨ms, hms, -⟩ := h 0
  · refine ⟨⟨.null, .null, d.label⟩, ⟨now, none, label⟩, ?_, rfl, fun _ => .inl rfl⟩
    unfold Deadline.remaining passesAt
    rw [hnone]
    rfl
  -- what is left is counted from now on, and it ends when the deadline does
  · have hpending : ∀ k, s.timeAfter k < d.started + ms := by
      intro k
      obtain hnone | ⟨ms', hms', hk⟩ := h k
      · rw [hnone] at hms
        cases hms
      · rw [hms] at hms'
        cases hms'
        exact hk
    have hbefore : now < d.started + ms := by
      obtain ⟨j, rfl⟩ := hnow
      exact hpending j
    have hbelow : (Number.int now).below (.int (d.started + ms)) = true := decide_eq_true hbefore
    have hleft : limiting (.int (d.started + ms - now)) = some (.int (d.started + ms - now)) :=
      if_pos (bne_iff_ne.2 (by omega))
    refine ⟨d.limitOf (.int (d.started + ms - now)),
      ⟨now, some (.int (d.started + ms - now)), label⟩, ?_, ?_, fun k => ?_⟩
    · unfold Deadline.remaining passesAt
      rw [hms]
      show (if (Number.int now).below (.int (d.started + ms)) = true then _ else _) = _
      rw [if_pos hbelow]
      rfl
    · show starting now ((limiting (.int (d.started + ms - now))).getD (.int 0)) label = _
      rw [hleft]
      unfold starting
      rw [Option.getD_some, hleft]
      rfl
    · refine .inr ⟨_, rfl, ?_⟩
      have := hpending k
      show s.timeAfter k < now + (d.started + ms - now)
      omega

end Deadline

/-! ### What is ahead -/

/-- The items that are still to be had: those that are held, and those of the batches to come. -/
def Batch.ahead (held : List Value) (rest : List Batch) : List Value :=
  held ++ rest.flatMap Batch.results

@[simp] theorem Batch.ahead_nil_cons (b : Batch) (rest : List Batch) :
    ahead [] (b :: rest) = ahead b.results rest := rfl

/-- Mapping the items of a prefix and then the others is mapping all of them. -/
theorem Mapper.convert_ahead {mapper : Mapper α} {passed : Nat} {held : List Value}
    {rest : List Batch} {items : List α} (h : mapper.convert passed held = .ok items) :
    mapper.convert passed (Batch.ahead held rest) =
      (mapper.convert (passed + held.length : Nat) (Batch.ahead [] rest)).map (items ++ ·) := by
  unfold Batch.ahead
  rw [convert_append, h, Int.natCast_add]
  rfl

/-- A prefix that is not accepted decides. -/
theorem Mapper.convert_ahead_error {mapper : Mapper α} {passed : Nat} {held : List Value}
    {rest : List Batch} {e : Failure} (h : mapper.convert passed held = .error e) :
    mapper.convert passed (Batch.ahead held rest) = .error e := by
  unfold Batch.ahead
  rw [convert_append, h]
  rfl

namespace Cursor

variable {s s' : Scene} {w : ω} {held : List Value} {passed : Nat} {b : Batch} {rest : List Batch}

theorem Asked.later (h : c.Asked s s') : s.Later s' := by
  obtain ⟨id, limit, hexchanged⟩ := h
  exact hexchanged.later

theorem Asked.journal (h : c.Asked s s') : s'.journal = s.journal := by
  obtain ⟨id, limit, hexchanged⟩ := h
  exact hexchanged.journal

theorem Stocked.ne_closed (h : c.Stocked held passed rest s) :
    (s.cursors c.ref).phase ≠ .closed := by
  rw [h.state.phase]
  cases rest <;> exact Phase.noConfusion

theorem Stocked.ne_live (h : c.Stocked held passed [] s) : (s.cursors c.ref).phase ≠ .live := by
  rw [h.state.phase]
  exact Phase.noConfusion

/-- Where nothing is held, the next batch stands in the script, and a fetch uses it up. -/
theorem Stocked.shorter (h : c.Stocked [] passed (b :: rest) s) (hasked : c.Asked s s') :
    s'.script.length < s.script.length := by
  obtain ⟨o, more, hscript, -, -⟩ := h.served fun _ hmem => nomatch hmem
  obtain ⟨id, limit, hexchanged⟩ := hasked
  rw [hexchanged.script, hscript]
  exact Nat.lt_succ_self _

/-! ### All that is left, in one list -/

/-- How a method that gives a list ends: with what the mapper makes of all that was ahead, and once
that is all right the cursor is not live any more. -/
def Gathered (c : Cursor α) (whole : Except Failure (List α)) (r : Except Failure (List α))
    (s : Scene) : Prop :=
  r = whole ∧ ∀ items, r = .ok items → (s.cursors c.ref).phase ≠ .live

/-- **Some items are handed out, and the rest is read behind them:** what comes of both is what
the mapper makes of all of them. -/
theorem wp_gathered_seq {front : Program (List α)} {more : Program (List α)} {Q : Scene → Prop}
    (hfront : front.wp .alone (fun r _ s' => r = c.mapper.convert passed held ∧
      ∀ items, r = .ok items → Q s') w s)
    (hmore : ∀ (w : ω) s', Q s' → more.wp .alone (fun r _ s' => c.Gathered
      (c.mapper.convert (passed + held.length : Nat) (Batch.ahead [] rest)) r s') w s') :
    (do let items ← front
        return items ++ (← more)).wp .alone (fun r _ s' =>
      c.Gathered (c.mapper.convert passed (Batch.ahead held rest)) r s') w s := by
  refine Program.wp_seq hfront ?_ ?_
  · rintro items w s₁ ⟨hitems, hleft⟩
    rw [Mapper.convert_ahead hitems.symm]
    refine Program.wp_seq (hmore w s₁ (hleft items rfl)) ?_ ?_
    · rintro others w s' ⟨hothers, hend⟩
      rw [← hothers]
      exact ⟨rfl, fun _ _ => hend others rfl⟩
    · rintro e w s' ⟨he, -⟩
      rw [← he]
      exact ⟨rfl, fun _ he => nomatch he⟩
  · rintro e w s₁ ⟨hitems, -⟩
    rw [Mapper.convert_ahead_error hitems.symm]
    exact ⟨rfl, fun _ he => nomatch he⟩

section Lists

variable (hchannel : c.service.gateway.channel = some c.service.mode) {d : Deadline}

include hchannel

/-- The loop of a list gives all that is to come. -/
theorem Stocked.wp_collect {rounds : Nat} (h : c.Stocked [] passed rest s)
    (hlasts : d.Lasts c.requestLimit s) (hrounds : s.script.length < rounds) :
    (c.collect d rounds).wp .alone (fun r _ s' =>
      c.Gathered (c.mapper.convert passed (Batch.ahead [] rest)) r s') w s := by
  -- on the rounds: one without a fetch is the last one
  induction rounds generalizing rest passed s w with
  | zero => exact absurd hrounds (Nat.not_lt_zero _)
  | succ n ih =>
    unfold collect
    rw [wp_look]
    cases rest with
    | nil =>
      rw [if_neg h.ne_live]
      exact ⟨rfl, fun _ _ => h.ne_live⟩
    | cons b rest =>
      have hlive : (s.cursors c.ref).phase = .live := h.state.phase
      rw [if_pos hlive]
      refine Program.wp_seq (h.wp_fetchNext hchannel ?_) ?_ fun _ _ _ hfailed => by cases hfailed.1
      · rintro _ ⟨⟩
        exact hlasts
      rintro _ w s₁ ⟨-, hstocked, hasked⟩
      rw [Batch.ahead_nil_cons]
      refine wp_gathered_seq (Q := fun s₂ => c.Stocked [] _ rest s₂ ∧ s₁.Still s₂)
        (Program.wp_mono hstocked.wp_drain fun _ _ s₂ hdrained => ⟨hdrained.1,
          fun items hitems => ⟨hdrained.2.2 items hitems, hdrained.2.1⟩⟩) ?_
      rintro w s₂ ⟨hleft, hstill⟩
      -- the batch has used up some of the script, so that there are still enough rounds
      have hshorter : s₂.script.length < n := by
        have := h.shorter hasked
        rw [hstill.script]
        omega
      exact ih hleft (hlasts.later (hasked.later.trans hstill.later)) hshorter

/-- Reading all that is left gives all that is ahead. -/
theorem Stocked.wp_remainder (h : c.Stocked held passed rest s)
    (hlasts : d.Lasts c.requestLimit s) :
    (c.remainder d).wp .alone (fun r _ s' =>
      c.Gathered (c.mapper.convert passed (Batch.ahead held rest)) r s') w s := by
  have hmore : ∀ (w : ω) (s₁ : Scene), c.Stocked [] (passed + held.length) rest s₁ ∧ s.Still s₁ →
      (Program.view Scene.horizon >>= c.collect d).wp .alone (fun r _ s' =>
        c.Gathered (c.mapper.convert (passed + held.length : Nat) (Batch.ahead [] rest)) r s')
        w s₁ := by
    rintro w s₁ ⟨hleft, hstill⟩
    exact hleft.wp_collect hchannel (hlasts.later hstill.later) (Nat.lt_add_of_pos_right (by decide))
  exact wp_gathered_seq (Program.wp_mono h.wp_drain fun _ _ s₁ hdrained => ⟨hdrained.1,
    fun items hitems => ⟨hdrained.2.2 items hitems, hdrained.2.1⟩⟩) hmore

end Lists

/-! ### Batch by batch, for as long as there are more -/

/-- The items of further batches, for as long as the server announces more, and for a number of
rounds. -/
def moreBatches (c : Cursor α) : Nat → Program (List α)
  | 0 => pure []
  | n + 1 => do
    if (← c.look).hasMore then
      let items ← c.nextBatch
      return items ++ (← moreBatches c n)
    else return []

/-- The items of the next batch, and of further ones for as long as the server announces more. -/
def allBatches (c : Cursor α) : Program (List α) := do
  let items ← c.nextBatch
  return items ++ (← c.moreBatches (← Program.view Scene.horizon))

section Batches

variable (hchannel : c.service.gateway.channel = some c.service.mode)

include hchannel

theorem Stocked.wp_moreBatches {rounds : Nat} (h : c.Stocked [] passed rest s)
    (hrounds : s.script.length < rounds) :
    (c.moreBatches rounds).wp .alone (fun r _ s' =>
      c.Gathered (c.mapper.convert passed (Batch.ahead [] rest)) r s') w s := by
  induction rounds generalizing rest passed s w with
  | zero => exact absurd hrounds (Nat.not_lt_zero _)
  | succ n ih =>
    unfold moreBatches
    rw [wp_look, h.state.more]
    cases rest with
    | nil => exact ⟨rfl, fun _ _ => h.ne_live⟩
    | cons b rest =>
      rw [Batch.ahead_nil_cons]
      refine wp_gathered_seq (Q := fun s₁ => c.Stocked [] _ rest s₁ ∧ c.Asked s s₁)
        (Program.wp_mono (h.wp_nextBatch_fetch hchannel) fun _ _ s₁ hgiven => ⟨hgiven.1,
          fun items hitems => ⟨hgiven.2.2 items hitems, hgiven.2.1⟩⟩) ?_
      rintro w s₁ ⟨hleft, hasked⟩
      have hshorter : s₁.script.length < n := by
        have := h.shorter hasked
        omega
      exact ih hleft hshorter

/-- Batch by batch, all that is ahead is read. -/
theorem Stocked.wp_allBatches (h : c.Stocked held passed rest s) :
    c.allBatches.wp .alone (fun r _ s' =>
      c.Gathered (c.mapper.convert passed (Batch.ahead held rest)) r s') w s := by
  have hmore : ∀ {number : Nat} {rest : List Batch} (w : ω) (s₁ : Scene),
      c.Stocked [] number rest s₁ →
      (Program.view Scene.horizon >>= c.moreBatches).wp .alone (fun r _ s' =>
        c.Gathered (c.mapper.convert number (Batch.ahead [] rest)) r s') w s₁ :=
    fun _ _ hstocked =>
      hstocked.wp_moreBatches hchannel (Nat.lt_add_of_pos_right (by decide))
  have hheld : held ≠ [] ∨ rest = [] → c.allBatches.wp .alone (fun r _ s' =>
      c.Gathered (c.mapper.convert passed (Batch.ahead held rest)) r s') w s := fun hheld =>
    wp_gathered_seq (Program.wp_mono (h.wp_nextBatch_held hheld)
      fun _ _ _ hgiven => ⟨hgiven.1, hgiven.2.2⟩) hmore
  cases held with
  | cons item held => exact hheld (.inl (List.cons_ne_nil _ _))
  | nil =>
    cases rest with
    | nil => exact hheld (.inr rfl)
    | cons b rest =>
      -- a first batch without items is passed over
      rw [Batch.ahead_nil_cons]
      exact wp_gathered_seq (Program.wp_mono (h.wp_nextBatch_fetch hchannel)
        fun _ _ _ hgiven => ⟨hgiven.1, hgiven.2.2⟩) hmore

end Batches

/-! ### One item after the other -/

/-- **What looking for an item comes to:** what is ahead is the same, and the cursor holds the first
of it if there is any. -/
structure Filled (c : Cursor α) (held : List Value) (passed : Nat) (rest : List Batch) (s : Scene)
    (held' : List Value) (rest' : List Batch) (s' : Scene) : Prop where
  stocked : c.Stocked held' passed rest' s'
  ahead : Batch.ahead held rest = Batch.ahead held' rest'
  found : held' = [] → rest' = []
  kept : held ≠ [] → held' = held
  later : s.Later s'
  journal : s'.journal = s.journal
  shorter : held = [] → held' ≠ [] → s'.script.length < s.script.length

/-- Where something is held, or nothing is to come, there is nothing to look for. -/
theorem Filled.refl (h : c.Stocked held passed rest s) (hheld : held ≠ [] ∨ rest = []) :
    c.Filled held passed rest s held rest s where
  stocked := h
  ahead := rfl
  found hempty := hheld.elim (fun hne => absurd hempty hne) id
  kept _ := rfl
  later := .refl s
  journal := rfl
  shorter hempty hne := absurd hempty hne

/-- A fetch is followed by a further look. -/
theorem Filled.fetched {s₁ : Scene} {held' : List Value} {rest' : List Batch}
    (h : c.Stocked [] passed (b :: rest) s) (hasked : c.Asked s s₁)
    (hfilled : c.Filled b.results passed rest s₁ held' rest' s') :
    c.Filled [] passed (b :: rest) s held' rest' s' where
  stocked := hfilled.stocked
  ahead := hfilled.ahead
  found := hfilled.found
  kept hne := absurd rfl hne
  later := hasked.later.trans hfilled.later
  journal := by rw [hfilled.journal, hasked.journal]
  shorter _ _ := Nat.lt_of_le_of_lt hfilled.later.length_le (h.shorter hasked)

/-- **A pull takes the first item that is ahead,** if there is any and the mapper accepts it. -/
inductive Pulled (c : Cursor α) (held : List Value) (passed : Nat) (rest : List Batch)
    (s : Scene) : Except Failure (Option α) → Scene → Prop
  | ended {s' : Scene} : Batch.ahead held rest = [] → s'.journal = s.journal →
      (s'.cursors c.ref).phase ≠ .live → Pulled c held passed rest s (.ok none) s'
  | refused {item : Value} {more : List Value} {fault : MapperFault} {s' : Scene} :
      Batch.ahead held rest = item :: more → c.mapper item = .error fault →
      Pulled c held passed rest s (.error (Mapper.failureAt passed item fault)) s'
  | item {item : Value} {a : α} {held' : List Value} {rest' : List Batch} {s' : Scene} :
      Batch.ahead held rest = item :: Batch.ahead held' rest' → c.mapper item = .ok a →
      c.Stocked held' (passed + 1) rest' s' → s.Later s' → s'.journal = s.journal →
      (held ≠ [] → held' = held.tail) →
      (held = [] → s'.script.length < s.script.length) →
      Pulled c held passed rest s (.ok (some a)) s'

/-- Once it has been found, the first item that is ahead is handed out. -/
theorem Filled.wp_pop {held' : List Value} {rest' : List Batch} {s₁ : Scene}
    (h : c.Filled held passed rest s held' rest' s₁) (hheld : held' ≠ []) :
    c.pop?.wp .alone (fun r _ s' => c.Pulled held passed rest s r s') w s₁ := by
  obtain ⟨item, more, rfl⟩ := List.exists_cons_of_ne_nil hheld
  have hstate := h.stocked.state
  unfold pop?
  rw [Program.wp_bind, wp_handOut, hstate.buffer, hstate.consumed]
  -- a single item is converted, so that it alone decides
  cases hitem : c.mapper item with
  | error fault =>
    have hone : c.mapper.convert passed ((item :: more).take 1) = _ :=
      Mapper.convert_cons_error hitem passed []
    rw [hone]
    exact .refused h.ahead hitem
  | ok a =>
    have hone : c.mapper.convert passed ((item :: more).take 1) = .ok [a] := by
      show c.mapper.convert passed [item] = _
      rw [Mapper.convert_cons_ok hitem]
      rfl
    rw [hone]
    refine .item h.ahead hitem (h.stocked.take hone) h.later h.journal ?_ fun hempty => ?_
    · intro hne
      rw [← h.kept hne]
      rfl
    · exact h.shorter hempty hheld

section Filling

variable (hchannel : c.service.gateway.channel = some c.service.mode)
  {deadline : Option Deadline}

include hchannel

theorem Stocked.wp_fillWithin {rounds : Nat} (h : c.Stocked held passed rest s)
    (hlasts : ∀ d, deadline = some d → d.Lasts c.requestLimit s)
    (hrounds : s.script.length < rounds) :
    (c.fillWithin deadline rounds).wp .alone (fun r _ s' => r = .ok () ∧
      ∃ held' rest', c.Filled held passed rest s held' rest' s') w s := by
  -- on the rounds: an empty batch may come in each of them, but it uses up some of the script
  induction rounds generalizing held rest s w with
  | zero => exact absurd hrounds (Nat.not_lt_zero _)
  | succ n ih =>
    unfold fillWithin
    rw [wp_look]
    by_cases hneeds : (s.cursors c.ref).needsFetch = true
    · rw [if_pos hneeds]
      obtain ⟨rfl, hrest⟩ := h.state.needsFetch.1 hneeds
      obtain ⟨b, rest, rfl⟩ := List.exists_cons_of_ne_nil hrest
      refine Program.wp_seq (h.wp_fetchNext hchannel hlasts) ?_ fun _ _ _ hfailed => by
        cases hfailed.1
      rintro _ w s₁ ⟨-, hstocked, hasked⟩
      have hshorter : s₁.script.length < n := by
        have := h.shorter hasked
        omega
      refine Program.wp_mono (ih hstocked (fun d hd => (hlasts d hd).later hasked.later)
        hshorter) ?_
      rintro r w s' ⟨hr, held', rest', hfilled⟩
      exact ⟨hr, held', rest', hfilled.fetched h hasked⟩
    · rw [if_neg hneeds]
      refine ⟨rfl, held, rest, .refl h ?_⟩
      rw [h.state.needsFetch] at hneeds
      by_cases hempty : held = []
      · exact .inr (Decidable.not_not.1 fun hrest => hneeds ⟨hempty, hrest⟩)
      · exact .inl hempty

/-- Looking for an item comes to the first one that is ahead. -/
theorem Stocked.wp_fill (h : c.Stocked held passed rest s)
    (hlasts : ∀ d, deadline = some d → d.Lasts c.requestLimit s) :
    (c.fill deadline).wp .alone (fun r _ s' => r = .ok () ∧
      ∃ held' rest', c.Filled held passed rest s held' rest' s') w s :=
  h.wp_fillWithin hchannel hlasts (Nat.lt_add_of_pos_right (by decide))

end Filling

/-- **A way of pulling items one by one,** for as long as some condition lasts. -/
structure Puller (c : Cursor α) (pull : Program (Option α)) (lasting : Scene → Prop) : Prop where
  later : ∀ {s s' : Scene}, lasting s → s.Later s' → lasting s'
  pulls : ∀ {held : List Value} {passed : Nat} {rest : List Batch} {s : Scene},
    c.Stocked held passed rest s → lasting s →
      pull.wp .alone (fun r _ s' => c.Pulled held passed rest s r s') () s

section Pulling

variable (hchannel : c.service.gateway.channel = some c.service.mode)

include hchannel

theorem puller_next : c.Puller c.next? fun _ => True where
  later _ _ := trivial
  pulls {held passed rest s} h _ := by
    unfold next?
    rw [wp_look, if_neg h.ne_closed]
    refine Program.wp_seq (h.wp_fill hchannel fun _ hd => nomatch hd) ?_ fun _ _ _ hfailed =>
      nomatch hfailed.1
    rintro _ w s₁ ⟨-, held', rest', hfilled⟩
    rw [wp_look, hfilled.stocked.state.buffer]
    cases held' with
    | nil =>
      obtain rfl : rest' = [] := hfilled.found rfl
      -- the cursor is exhausted, so that closing it sends nothing
      have hexhausted : (s₁.cursors c.ref).toRelease = none := by
        refine CursorState.toRelease_of_not_live ?_
        rw [hfilled.stocked.state.phase]
        exact Phase.noConfusion
      show (c.close >>= fun _ => pure none).wp _ _ _ _
      unfold close
      rw [Program.bind_assoc, wp_look, Program.bind_assoc, wp_update, hexhausted]
      refine .ended hfilled.ahead hfilled.journal ?_
      rw [Scene.changeCursor_cursors_self]
      exact Phase.noConfusion
    | cons item more => exact hfilled.wp_pop (List.cons_ne_nil _ _)

theorem puller_pullUnder (d : Deadline) :
    c.Puller (c.pullUnder d) (d.Lasts c.requestLimit) where
  later h hs := h.later hs
  pulls {held passed rest s} h hlasts := by
    unfold pullUnder
    refine Program.wp_seq (h.wp_fill hchannel ?_) ?_ fun _ _ _ hfailed => nomatch hfailed.1
    · rintro _ ⟨⟩
      exact hlasts
    rintro _ w s₁ ⟨-, held', rest', hfilled⟩
    cases held' with
    | cons item more => exact hfilled.wp_pop (List.cons_ne_nil _ _)
    | nil =>
      obtain rfl : rest' = [] := hfilled.found rfl
      have hstate := hfilled.stocked.state
      unfold pop?
      rw [Program.wp_bind, wp_handOut, hstate.buffer, hstate.consumed]
      refine .ended hfilled.ahead hfilled.journal ?_
      rw [Scene.changeCursor_cursors_self]
      show (s₁.cursors c.ref).phase ≠ .live
      exact hfilled.stocked.ne_live

end Pulling

/-! ### Visiting all items -/

/-- A function that notes what it is called on, and goes on. -/
def collecting (slot : Nat) (shown : α → Value) : α → Program Bool :=
  noting slot shown fun _ => pure true

/-- How a method ends that notes the items one by one: as the mapper has it, and once that is all
right everything has been noted and the cursor is not live any more. -/
structure Noted (c : Cursor α) (slot : Nat) (shown : α → Value) (whole : Except Failure (List α))
    (s : Scene) (r : Except Failure Unit) (s' : Scene) : Prop where
  result : r = whole.map fun _ => ()
  noted : ∀ items, whole = .ok items → s'.journal slot = s.journal slot ++ items.map shown
  ended : ∀ items, whole = .ok items → (s'.cursors c.ref).phase ≠ .live

/-- **What a number of visits come to.** As long as they go on, what has been noted is what the
mapper makes of the items that are not ahead any more; more visits than there were items in the
buffer have used up some of the script. -/
inductive Visited (c : Cursor α) (slot : Nat) (shown : α → Value) (number : Nat)
    (held : List Value) (passed : Nat) (rest : List Batch) (s : Scene) :
    Except Failure Bool → Scene → Prop
  | failed {e : Failure} {s' : Scene} :
      c.mapper.convert passed (Batch.ahead held rest) = .error e →
      Visited c slot shown number held passed rest s (.error e) s'
  | ended (items : List α) {s' : Scene} :
      c.mapper.convert passed (Batch.ahead held rest) = .ok items →
      s'.journal slot = s.journal slot ++ items.map shown →
      (s'.cursors c.ref).phase ≠ .live →
      Visited c slot shown number held passed rest s (.ok false) s'
  | goesOn (items : List α) {held' : List Value} {passed' : Nat} {rest' : List Batch} {s' : Scene} :
      c.mapper.convert passed (Batch.ahead held rest) =
        (c.mapper.convert passed' (Batch.ahead held' rest')).map (items ++ ·) →
      s'.journal slot = s.journal slot ++ items.map shown →
      c.Stocked held' passed' rest' s' → s.Later s' →
      (held.length < number → s'.script.length < s.script.length) →
      Visited c slot shown number held passed rest s (.ok true) s'

section Visiting

variable {slot : Nat} {shown : α → Value} {number : Nat}

/-- One more visit is made in front of others. -/
theorem Visited.cons {item : Value} {a : α} {held' : List Value} {rest' : List Batch}
    {s₁ : Scene} {r : Except Failure Bool}
    (hahead : Batch.ahead held rest = item :: Batch.ahead held' rest')
    (hitem : c.mapper item = .ok a) (hjournal : s₁.journal slot = s.journal slot ++ [shown a])
    (hlater : s.Later s₁) (htail : held ≠ [] → held' = held.tail)
    (hshorter : held = [] → s₁.script.length < s.script.length)
    (h : c.Visited slot shown number held' (passed + 1) rest' s₁ r s') :
    c.Visited slot shown (number + 1) held passed rest s r s' := by
  have hwhole : c.mapper.convert passed (Batch.ahead held rest) =
      (c.mapper.convert (passed + 1 : Nat) (Batch.ahead held' rest')).map (a :: ·) := by
    rw [hahead, Mapper.convert_cons_ok hitem]
    rfl
  cases h with
  | failed he =>
    rw [he] at hwhole
    exact .failed hwhole
  | ended items hitems hnoted hphase =>
    rw [hitems] at hwhole
    refine .ended (a :: items) hwhole ?_ hphase
    rw [hnoted, hjournal, List.append_assoc]
    rfl
  | @goesOn items held'' passed'' rest'' _ hitems hnoted hstocked hlater' hshorter' =>
    refine .goesOn (a :: items) ?_ ?_ hstocked (hlater.trans hlater') fun hnumber => ?_
    · rw [hwhole, hitems]
      cases c.mapper.convert passed'' (Batch.ahead held'' rest'') <;> rfl
    · rw [hnoted, hjournal, List.append_assoc]
      rfl
    · -- either this visit has made a fetch, or one behind it has
      cases held with
      | nil => exact Nat.lt_of_le_of_lt hlater'.length_le (hshorter rfl)
      | cons x more =>
        obtain rfl : held' = more := htail (List.cons_ne_nil _ _)
        exact Nat.lt_of_lt_of_le (hshorter' (Nat.lt_of_succ_lt_succ hnumber)) hlater.length_le

variable {pull : Program (Option α)} {lasting : Scene → Prop} (hp : c.Puller pull lasting)

include hp

theorem Puller.wp_visitItems (h : c.Stocked held passed rest s) (hlasting : lasting s) :
    (visitItems pull (collecting slot shown) number).wp .alone
      (fun r _ s' => c.Visited slot shown number held passed rest s r s') () s := by
  -- on the visits: the first one takes an item off what is ahead, and the others go on behind it
  induction number generalizing held passed rest s with
  | zero =>
    refine .goesOn [] ?_ ?_ h (.refl s) fun hnumber => absurd hnumber (Nat.not_lt_zero _)
    · cases c.mapper.convert passed (Batch.ahead held rest) <;> rfl
    · rw [List.map_nil, List.append_nil]
  | succ n ih =>
    unfold visitItems
    refine Program.wp_seq (hp.pulls h hlasting) ?_ ?_
    · rintro a? _ s₁ hpulled
      cases hpulled with
      | ended hahead hjournal hphase =>
        refine .ended [] ?_ ?_ hphase
        · rw [hahead]
          rfl
        · rw [hjournal, List.map_nil, List.append_nil]
      | @item item a held' rest' _ hahead hitem hstocked hlater hjournal htail hshorter =>
        -- the visit itself is a note
        let noted := s₁.note slot (shown a)
        have hnoted : noted.journal slot = s.journal slot ++ [shown a] := by
          show (if slot = slot then s₁.journal slot ++ [shown a] else _) = _
          rw [if_pos rfl, hjournal]
        have hstill : s₁.Later noted := ⟨0, rfl, fun k => by rw [Nat.zero_add]; rfl⟩
        refine Program.wp_mono (ih (s := noted)
          ⟨hstocked.state, hstocked.paged, hstocked.served⟩
          (hp.later hlasting (hlater.trans hstill))) ?_
        exact fun r _ s' hvisited =>
          .cons hahead hitem hnoted (hlater.trans hstill) htail hshorter hvisited
    · rintro e _ s₁ hpulled
      cases hpulled with
      | refused hahead hitem =>
        refine .failed ?_
        rw [hahead, Mapper.convert_cons_error hitem]

/-- Visits go on until all that was ahead has been noted. -/
theorem Puller.wp_visitRounds {rounds : Nat} (h : c.Stocked held passed rest s)
    (hlasting : lasting s) (hrounds : s.script.length < rounds) :
    (c.visitRounds pull (collecting slot shown) rounds).wp .alone (fun r _ s' =>
      c.Noted slot shown (c.mapper.convert passed (Batch.ahead held rest)) s r s') () s := by
  -- a round visits one item more than the buffer holds, so that it uses up some of the script
  induction rounds generalizing held passed rest s with
  | zero => exact absurd hrounds (Nat.not_lt_zero _)
  | succ n ih =>
    unfold visitRounds
    rw [wp_look, h.state.buffer]
    refine Program.wp_seq (hp.wp_visitItems h hlasting) ?_ ?_
    · rintro on _ s₁ hvisited
      cases hvisited with
      | ended items hitems hnoted hphase =>
        rw [hitems]
        refine ⟨rfl, ?_, fun _ _ => hphase⟩
        rintro _ ⟨⟩
        exact hnoted
      | @goesOn items held' passed' rest' _ hitems hnoted hstocked hlater hshorter =>
        have hleft : s₁.script.length < n := by
          have := hshorter (Nat.lt_succ_self _)
          omega
        refine Program.wp_mono (ih hstocked (hp.later hlasting hlater) hleft) ?_
        rintro r _ s' ⟨hr, hmore, hphase⟩
        rw [hitems]
        cases hothers : c.mapper.convert passed' (Batch.ahead held' rest') with
        | error e =>
          rw [hothers] at hr
          exact ⟨hr, (fun _ he => by cases he), fun _ he => by cases he⟩
        | ok others =>
          rw [hothers] at hr
          refine ⟨hr, ?_, fun _ _ => hphase others hothers⟩
          rintro _ ⟨⟩
          rw [hmore others hothers, hnoted, List.append_assoc, ← List.map_append]
    · rintro e _ s₁ hvisited
      cases hvisited with
      | failed he =>
        rw [he]
        exact ⟨rfl, (fun _ he => by cases he), fun _ he => by cases he⟩

theorem Puller.wp_visitAll (h : c.Stocked held passed rest s) (hlasting : lasting s) :
    (c.visitAll pull (collecting slot shown)).wp .alone (fun r _ s' =>
      c.Noted slot shown (c.mapper.convert passed (Batch.ahead held rest)) s r s') () s :=
  hp.wp_visitRounds h hlasting (Nat.lt_add_of_pos_right (by decide))

end Visiting

/-! ### Methods that read to the end -/

/-- Closing a cursor with nothing to release is a single change. -/
theorem run_close_of_none {s : Scene} (h : (s.cursors c.ref).toRelease = none) :
    c.close.run s = (.ok (), s.changeCursor c.ref .closed) := by
  have hwp : c.close.wp .alone
      (fun r _ s' => (r, s') = (.ok (), s.changeCursor c.ref .closed)) () s := by
    unfold close
    rw [wp_look, wp_update]
    split
    case h_1 => rfl
    case h_2 id hid =>
      rw [h] at hid
      cases hid
  exact (Program.wp_alone _).1 hwp

/-- What a program ends with, as far as a caller sees it: its result and what it has noted. A cursor
is not live any more behind a program that ends well. -/
def Settles (c : Cursor α) (R : Except Failure β → (Nat → List Value) → Prop)
    (r : Except Failure β) (s : Scene) : Prop :=
  R r s.journal ∧ ∀ b, r = .ok b → (s.cursors c.ref).phase ≠ .live

section Methods

variable (hchannel : c.service.gateway.channel = some c.service.mode)
  (hscript : s.FailsBy fun e => e.isTransport = true)

include hchannel

section Closing

include hscript

/-- **Closing a cursor behind a program changes nothing of what it comes to,** if a program that has
ended well leaves nothing to release. -/
theorem wp_closing_settles {body : Program β} {R : Except Failure β → (Nat → List Value) → Prop}
    (hfailed : ∀ e notes notes', R (.error e) notes → R (.error e) notes')
    (h : body.wp .alone (fun r _ s' => c.Settles R r s') () s) :
    (c.closing body).wp .alone (fun r _ s' => c.Settles R r s') () s := by
  obtain ⟨hR, hphase⟩ := (Program.wp_alone _).1 h
  have hprevails := closing_prevails hchannel hscript body
  rw [Program.wp_alone]
  cases hr : (body.run s).1 with
  | error e =>
    -- the failure goes on its way, whatever comes of the release
    rw [hr] at hR
    rw [hprevails.failure e hr]
    exact ⟨hfailed e _ _ hR, fun _ he => nomatch he⟩
  | ok b =>
    have hexhausted : ((body.run s).2.cursors c.ref).toRelease = none :=
      CursorState.toRelease_of_not_live (hphase b hr)
    have hrun : (c.closing body).run s =
        (.ok b, (body.run s).2.changeCursor c.ref .closed) := by
      unfold closing
      rw [Program.run_bind, Program.run_attempt, hr]
      show (c.close >>= fun _ => pure b).run (body.run s).2 = _
      rw [Program.run_bind, run_close_of_none hexhausted]
      rfl
    rw [hr] at hR
    rw [hrun]
    refine ⟨hR, fun _ _ => ?_⟩
    rw [Scene.changeCursor_cursors_self]
    exact Phase.noConfusion

variable {limit : Value} {d : Deadline}
  (hstart : Deadline.starting s.now limit (some generalTimeoutLabel) = .ok d)
  (hlasts : d.Lasts c.requestLimit s)

include hstart

/-- A method that reads to the end under a deadline settles as the reading does. -/
theorem wp_underDeadline_settles {read : Deadline → Program β}
    {R : Except Failure β → (Nat → List Value) → Prop} (h : c.Stocked held passed rest s)
    (hfailed : ∀ e notes notes', R (.error e) notes → R (.error e) notes')
    (hread : (read d).wp .alone (fun r _ s' => c.Settles R r s') () s) :
    (c.underDeadline limit fun d => c.closing (read d)).wp .alone
      (fun r _ s' => c.Settles R r s') () s := by
  unfold underDeadline
  rw [Program.wp_bind, wp_deadline, if_neg h.ne_closed, hstart, Program.chain_ok]
  exact wp_closing_settles hchannel hscript hfailed hread

include hlasts

/-- **A list of all that is left is what the mapper makes of all that is ahead.** -/
theorem Stocked.wp_toListWithin (h : c.Stocked held passed rest s) :
    (c.toListWithin limit).wp .alone (fun r _ s' => c.Settles (fun r _ =>
      r = c.mapper.convert passed (Batch.ahead held rest)) r s') () s := by
  rw [toListWithin_eq]
  exact wp_underDeadline_settles hchannel hscript hstart h (fun _ _ _ he => he)
    (h.wp_remainder hchannel hlasts)

end Closing

variable {slot : Nat} {shown : α → Value}

/-- What a method that notes the items comes to, for a caller who knows what was noted before. -/
def NotesAll (slot : Nat) (shown : α → Value) (whole : Except Failure (List α))
    (before : List Value) (r : Except Failure Unit) (notes : Nat → List Value) : Prop :=
  r = whole.map (fun _ => ()) ∧
    ∀ items, whole = .ok items → notes slot = before ++ items.map shown

omit hchannel in
theorem Noted.settles {whole : Except Failure (List α)} {r : Except Failure Unit}
    (h : c.Noted slot shown whole s r s') :
    c.Settles (NotesAll slot shown whole (s.journal slot)) r s' := by
  refine ⟨⟨h.result, h.noted⟩, fun b hb => ?_⟩
  cases hwhole : whole with
  | ok items => exact h.ended items hwhole
  | error e =>
    have hr := h.result
    rw [hwhole, hb] at hr
    cases hr

omit hchannel in
/-- Where a method has failed, nothing is said of what it has noted. -/
theorem NotesAll.failed {whole : Except Failure (List α)} {before : List Value}
    (e : Failure) (notes notes' : Nat → List Value)
    (h : NotesAll slot shown whole before (.error e) notes) :
    NotesAll slot shown whole before (.error e) notes' := by
  refine ⟨h.1, fun items hitems => ?_⟩
  have hr := h.1
  rw [hitems] at hr
  cases hr

/-- **Going through all items notes what the mapper makes of all that is ahead.** -/
theorem Stocked.wp_iterate (h : c.Stocked held passed rest s) :
    (c.iterate (collecting slot shown)).wp .alone (fun r _ s' => c.Settles (NotesAll slot shown
      (c.mapper.convert passed (Batch.ahead held rest)) (s.journal slot)) r s') () s := by
  unfold iterate ensureAlive
  rw [Program.bind_assoc, wp_look, if_neg h.ne_closed]
  exact Program.wp_mono ((puller_next hchannel).wp_visitAll h trivial)
    fun _ _ _ hnoted => hnoted.settles

/-- **Calling a function on each item notes the same.** -/
theorem Stocked.wp_forEach (hscript : s.FailsBy fun e => e.isTransport = true)
    {general timeout : Option Int} {d : Deadline}
    (hstart : Deadline.starting s.now (c.overall general timeout) (some generalTimeoutLabel) = .ok d)
    (hlasts : d.Lasts c.requestLimit s) (h : c.Stocked held passed rest s) :
    (c.forEach (collecting slot shown) general timeout).wp .alone (fun r _ s' =>
      c.Settles (NotesAll slot shown (c.mapper.convert passed (Batch.ahead held rest))
        (s.journal slot)) r s') () s := by
  rw [forEach_eq]
  exact wp_underDeadline_settles hchannel hscript hstart h NotesAll.failed
    (Program.wp_mono ((puller_pullUnder hchannel d).wp_visitAll h hlasts)
      fun _ _ _ hnoted => hnoted.settles)

end Methods

end Cursor

end AqlClient
