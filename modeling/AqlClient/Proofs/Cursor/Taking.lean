import AqlClient.Proofs.Cursor.Keeping
import AqlClient.Proofs.Mapper

/-!
# What a cursor takes and what it gives

What an operation of a cursor gives is what the mapper makes of the items that it takes out of the
buffer, one by one and in their order. Which items have been taken is in the books
(`Ledger.taken`), so that it remains to tie the items that are given to those.

`Watch.Took` says which items have been taken so far, and what a journal reads. Most of the
operations that others are made of take nothing, and for those this is not proved over again:
they keep *any* watch that is receptive, hence also one under which nothing may be handed out
(`Watch.restrained`, `Watch.Took.wp`). Only `Cursor.handOut` takes items, and what it gives is
`Cursor.hands_handOut`.

How an operation ends is said in three ways:

* `Cursor.Hands`: it gives all it has taken, or fails and has taken nothing;
* `Cursor.Lists`: it gives all it has taken, or fails and has lost that. The items are already
  out of the buffer when a later fetch fails;
* `Cursor.Told`: it has called a function on all it has taken, which is noted in the journal.
-/

namespace AqlClient

variable {α β : Type} {c : Cursor α}

/-! ### What has been taken -/

namespace Watch

variable {W : Watch c} {w : Bool} {s : Scene} {slot : Nat} {taken notes : List Value}

/-- Under the rules of a watch some items have been taken, and a journal reads as it does. -/
def Took (W : Watch c) (slot : Nat) (taken notes : List Value) (w : Bool) (s : Scene) : Prop :=
  ∃ L, W.Course L s ∧ L.Level ∧ L.state.fetching = w ∧ L.taken = taken ∧ s.journal slot = notes

/-- The rules of a watch, but nothing may be handed out, and a journal is to be kept. -/
def restrained (W : Watch c) (past : List Event) {L : Ledger} (hL : L.Sound c.service.mode)
    (slot : Nat) (notes : List Value) : Watch c where
  mine := W.mine
  allows change := W.allows change ∧ ∀ n, change ≠ .taken n
  kept k := if k = slot then some notes else none
  past := past
  opening := L
  sound := hL

variable {L M : Ledger} {s' : Scene} {events : List Event} {W' : Watch c}

/-- What tighter rules permit is permitted. -/
theorem Lawful.unrestrained (hmine : W'.mine = W.mine)
    (hallows : ∀ change, W'.allows change → W.allows change) (h : W'.Lawful M events) :
    W.Lawful M events := by
  induction events generalizing M with
  | nil => trivial
  | cons e events ih =>
    refine ⟨?_, ih h.2⟩
    cases e with
    | sent time q => exact fun hq => h.1 (hmine ▸ hq)
    | made ref => exact h.1
    | cursor ref change => exact fun hr => ⟨hallows change (h.1 hr).1, (h.1 hr).2⟩

/-- **Under rules that let nothing be handed out nothing is taken.** The tighter rules begin where
the others have come to. -/
theorem Course.withheld (hM : W'.Course M s') (hL : W.Course L s) (hkept : ∀ k, W.kept k = none)
    (hmine : W'.mine = W.mine) (hpast : W'.past = s.history) (hopening : W'.opening = L)
    (hallows : ∀ change, W'.allows change → W.allows change ∧ ∀ n, change ≠ .taken n) :
    W.Course M s' ∧ M.taken = L.taken := by
  obtain ⟨events, hhistory, hlaw, rfl⟩ := hM.events
  rw [hopening] at hlaw hM ⊢
  constructor
  · -- what has happened under the tighter rules is put behind what happened before
    obtain ⟨before, hbefore, hlawful, hbooks⟩ := hL.events
    refine ⟨⟨before ++ events, ?_, lawful_append.2 ⟨hlawful, ?_⟩, ?_⟩, hM.state, hM.placed, ?_⟩
    · rw [hhistory, hpast, ← List.append_assoc, ← hbefore]
    · rw [← hbooks]
      exact hlaw.unrestrained hmine fun change hc => (hallows change hc).1
    · rw [Ledger.through_append, ← hbooks]
    · intro k n hk
      rw [hkept k] at hk
      cases hk
  · -- no change that the tighter rules allow adds to what has been taken
    refine hlaw.invariant (P := fun N => N.taken = L.taken) rfl (fun _ hN => hN) ?_
    intro N change hN hc _
    cases change with
    | taken n => exact absurd rfl ((hallows _ hc).2 n)
    | received b => exact hN
    | settled b => exact hN
    | closed => exact hN
    | fetching on => exact hN

/-- **A program that keeps the restrained watch takes nothing.** -/
theorem Took.wp {p : Program β} (h : W.Took slot taken notes w s) (hfree : W.Free)
    (hkept : ∀ k, W.kept k = none)
    (hp : ∀ W' : Watch c, W'.Receptive → W'.mine = W.mine →
      (∀ k, (W'.kept k).isSome → k = slot) → W'.Quiet w s →
      p.wp .alone (fun _ w s => W'.Quiet w s) w s) :
    p.wp .alone (fun _ w s => W.Took slot taken notes w s) w s := by
  obtain ⟨L, hL, hlevel, hw, htaken, hnotes⟩ := h
  -- from here on nothing may be handed out, and the journal is to stay as it is
  let W' := W.restrained s.history hL.sound slot notes
  have hkept' : ∀ k, (W'.kept k).isSome → k = slot := by
    intro k hk
    by_cases hks : k = slot
    · exact hks
    · simp [W', restrained, hks] at hk
  have hstart : W'.Course L s := by
    refine Course.start (W := W') rfl hL.state hL.placed fun k n hk => ?_
    obtain rfl : k = slot := hkept' k (by rw [hk]; rfl)
    simp only [W', restrained, if_pos] at hk
    rw [hnotes]
    exact Option.some.inj hk
  have hend := hp W' (fun change hc => ⟨hfree change, hc⟩) rfl hkept' ⟨L, hstart, hlevel, hw⟩
  refine Program.wp_mono hend fun r w s' hquiet => ?_
  obtain ⟨M, hM, hlevelM, hwM⟩ := hquiet
  obtain ⟨hcourse, hsame⟩ := hM.withheld hL hkept rfl rfl rfl fun _ hc => hc
  exact ⟨M, hcourse, hlevelM, hwM, hsame.trans htaken, hM.kept slot notes (if_pos rfl)⟩

end Watch

/-! ### What has been given -/

namespace Cursor

/-- Some items are what the mapper makes of some raw ones, one by one. -/
def Gives (c : Cursor α) (raw : List Value) (items : List α) : Prop :=
  raw.map c.mapper = items.map .ok

theorem Gives.append {raw raw' : List Value} {items items' : List α} (h : c.Gives raw items)
    (h' : c.Gives raw' items') : c.Gives (raw ++ raw') (items ++ items') := by
  unfold Gives at *
  rw [List.map_append, List.map_append, h, h']

theorem gives_nil : c.Gives [] [] := rfl

/-- An operation that gives items has given all that it has taken, or it fails and has taken
nothing. -/
def Hands (W : Watch c) (slot : Nat) (taken notes : List Value) (given : β → List α)
    (r : Except Failure β) (w : Bool) (s : Scene) : Prop :=
  ∃ fresh, W.Took slot (taken ++ fresh) notes w s ∧
    match r with
    | .ok b => c.Gives fresh (given b)
    | .error _ => fresh = []

variable {W : Watch c} {w : Bool} {s : Scene} {slot : Nat} {taken notes : List Value}

/-- An operation that takes nothing hands out nothing. -/
theorem Hands.of_took {given : β → List α} {r : Except Failure β}
    (h : W.Took slot taken notes w s) (hgiven : ∀ b, r = .ok b → given b = []) :
    Hands W slot taken notes given r w s := by
  refine ⟨[], ?_, ?_⟩
  · rw [List.append_nil]
    exact h
  · cases r with
    | ok b =>
      show c.Gives [] (given b)
      rw [hgiven b rfl]
      exact gives_nil
    | error e => rfl

/-- **What is handed out is what the mapper makes of what is taken.** -/
theorem hands_handOut (hfree : W.Free) (h : W.Took slot taken notes w s) (number : Nat) :
    (c.handOut number).wp .alone (fun r w s' => Hands W slot taken notes id r w s' ∧
      ∀ items, r = .ok items → items.length ≤ number ∧
        (s'.cursors c.ref).buffer = (s.cursors c.ref).buffer.drop number) w s := by
  rw [wp_handOut]
  split
  case h_1 items hitems =>
    obtain ⟨L, hL, hlevel, hw, htaken, hnotes⟩ := h
    have hgives : c.Gives ((s.cursors c.ref).buffer.take number) items :=
      Mapper.convert_ok_iff.1 hitems
    refine ⟨⟨(s.cursors c.ref).buffer.take number, ?_, hgives⟩, ?_⟩
    · refine ⟨_, hL.change (hfree (.taken number)) trivial, hlevel, hw, ?_, hnotes⟩
      show L.taken ++ L.state.buffer.take number = _
      rw [htaken, hL.state]
    · rintro _ ⟨⟩
      constructor
      · have hlength := congrArg List.length hgives
        rw [List.length_map, List.length_map] at hlength
        rw [← hlength]
        exact List.length_take_le _ _
      · rw [Scene.changeCursor_cursors_self]
        rfl
  case h_2 e he =>
    exact ⟨Hands.of_took h (fun _ hb => nomatch hb), fun _ hb => nomatch hb⟩

theorem hands_drain (hfree : W.Free) (h : W.Took slot taken notes w s) :
    c.drain.wp .alone (fun r w s => Hands W slot taken notes id r w s ∧
      ∀ items, r = .ok items → (s.cursors c.ref).buffer = []) w s := by
  rw [wp_drain]
  refine Program.wp_mono (hands_handOut hfree h _) fun r w s' hr => ⟨hr.1, fun items hitems => ?_⟩
  rw [(hr.2 items hitems).2]
  exact List.drop_length

theorem hands_pop (hfree : W.Free) (h : W.Took slot taken notes w s) :
    c.pop?.wp .alone (Hands W slot taken notes Option.toList) w s := by
  unfold pop?
  refine Program.wp_seq (hands_handOut hfree h 1) ?_ ?_
  · rintro items w s' ⟨⟨fresh, htook, hgives⟩, hone⟩
    refine ⟨fresh, htook, ?_⟩
    -- at most one item was asked for
    have hlength := (hone items rfl).1
    show c.Gives fresh items.head?.toList
    match items, hlength with
    | [], _ => exact hgives
    | [a], _ => exact hgives
  · rintro e w s' ⟨⟨fresh, htook, hnone⟩, -⟩
    exact ⟨fresh, htook, hnone⟩

section Operations

variable (hfree : W.Free) (hkept : ∀ k, W.kept k = none)

include hfree hkept

theorem took_fill (h : W.Took slot taken notes w s) (deadline : Option Deadline) :
    (c.fill deadline).wp .alone (fun _ w s => W.Took slot taken notes w s) w s :=
  h.wp hfree hkept fun W' hW' _ _ hquiet => keeps_fill W'.hosts_alone hW' deadline hquiet

theorem took_close (h : W.Took slot taken notes w s) :
    c.close.wp .alone (fun _ w s => W.Took slot taken notes w s) w s :=
  h.wp hfree hkept fun W' hW' _ _ hquiet => keeps_close W'.hosts_alone hW' hquiet

theorem took_closeAfterFailure (h : W.Took slot taken notes w s) :
    c.closeAfterFailure.wp .alone (fun _ w s => W.Took slot taken notes w s) w s :=
  h.wp hfree hkept fun W' hW' _ _ hquiet =>
    keeps_closeAfterFailure W'.hosts_alone hW' hquiet

theorem took_deadline (h : W.Took slot taken notes w s) (overall : Value) :
    (c.deadline overall).wp .alone (fun _ w s => W.Took slot taken notes w s) w s :=
  h.wp hfree hkept fun W' hW' _ _ hquiet => keeps_deadline W'.hosts_alone hW' overall hquiet

/-- The next item is what the mapper makes of the next raw one. -/
theorem hands_next (h : W.Took slot taken notes w s) :
    c.next?.wp .alone (Hands W slot taken notes Option.toList) w s := by
  have hnothing : ∀ {w s}, W.Took slot taken notes w s →
      Hands W slot taken notes Option.toList (.ok (none : Option α)) w s :=
    fun h => Hands.of_took h fun a? ha => by cases ha; rfl
  have hfail : ∀ e w s, W.Took slot taken notes w s →
      Hands W slot taken notes Option.toList (.error e : Except Failure (Option α)) w s :=
    fun e w s h => Hands.of_took h fun a? ha => nomatch ha
  unfold next?
  rw [wp_look]
  split
  · exact hnothing h
  · refine Program.wp_seq (took_fill hfree hkept h none) (fun _ w s h => ?_) hfail
    rw [wp_look]
    split
    · -- behind the last item there is nothing to give
      exact Program.wp_seq (took_close hfree hkept h) (fun _ w s h => hnothing h) hfail
    · exact hands_pop hfree h

/-- The next batch is what the mapper makes of the rest of the buffer. -/
theorem hands_nextBatch (h : W.Took slot taken notes w s) :
    c.nextBatch.wp .alone (Hands W slot taken notes id) w s := by
  have hdrain : ∀ {w s}, W.Took slot taken notes w s →
      c.drain.wp .alone (Hands W slot taken notes id) w s :=
    fun h => Program.wp_mono (hands_drain hfree h) fun _ _ _ h => h.1
  unfold nextBatch
  rw [wp_look]
  split
  case isFalse => exact hdrain h
  case isTrue hneeds =>
    have hfetch : (c.fetchNext none).wp .alone (fun _ w s => W.Took slot taken notes w s) w s :=
      h.wp hfree hkept fun W' hW' _ _ hquiet =>
        wp_fetchNext_quiet W'.hosts_alone hW' none hquiet hneeds
    exact Program.wp_seq hfetch (fun _ w s h => hdrain h) fun e w s h =>
      Hands.of_took h fun _ hb => nomatch hb

theorem hands_hasNext (h : W.Took slot taken notes w s) :
    c.hasNext.wp .alone (Hands W slot taken notes fun _ => ([] : List α)) w s := by
  refine Program.wp_mono (h.wp hfree hkept fun W' hW' _ _ hquiet =>
    keeps_hasNext W'.hosts_alone hW' hquiet) fun r w s h => ?_
  exact Hands.of_took h fun _ _ => rfl

theorem hands_close (h : W.Took slot taken notes w s) :
    c.close.wp .alone (Hands W slot taken notes fun _ => ([] : List α)) w s :=
  Program.wp_mono (took_close hfree hkept h) fun _ _ _ h => Hands.of_took h fun _ _ => rfl

end Operations

/-! ### Draining -/

/-- What holds of the items taken so far and of a journal at the end of a program. -/
def Leaves (W : Watch c) (slot : Nat)
    (R : Except Failure β → List Value → List Value → Prop) (r : Except Failure β) (w : Bool)
    (s : Scene) : Prop :=
  ∃ taken notes, W.Took slot taken notes w s ∧ R r taken notes

/-- A program that gives all the items it has taken, unless it fails. -/
def Lists (c : Cursor α) (taken notes : List Value) (r : Except Failure (List α))
    (taken' notes' : List Value) : Prop :=
  notes' = notes ∧ ∃ fresh, taken' = taken ++ fresh ∧ ∀ items, r = .ok items → c.Gives fresh items

/-- All items that have been taken have been told to a journal. -/
def Told (c : Cursor α) (W : Watch c) (slot : Nat) (shown : α → Value)
    (taken notes : List Value) (w : Bool) (s : Scene) : Prop :=
  ∃ fresh calls, W.Took slot (taken ++ fresh) (notes ++ calls.map shown) w s ∧
    c.Gives fresh calls

theorem Lists.refl {r : Except Failure (List α)} (hr : ∀ items, r = .ok items → items = []) :
    c.Lists taken notes r taken notes := by
  refine ⟨rfl, [], (List.append_nil _).symm, fun items hitems => ?_⟩
  rw [hr items hitems]
  exact gives_nil

/-- Items that have been given already stand in front of those that are left. -/
theorem leaves_append {fresh : List Value} {items : List α} {rest : Program (List α)}
    (hgives : c.Gives fresh items)
    (hrest : rest.wp .alone (Leaves W slot (c.Lists (taken ++ fresh) notes)) w s) :
    (do return items ++ (← rest)).wp .alone (Leaves W slot (c.Lists taken notes)) w s := by
  refine Program.wp_seq hrest ?_ ?_
  · rintro more w s ⟨_, _, htook, rfl, fresh', rfl, hgives'⟩
    refine ⟨_, _, htook, rfl, fresh ++ fresh', List.append_assoc _ _ _, ?_⟩
    rintro _ ⟨⟩
    exact hgives.append (hgives' more rfl)
  · rintro e w s ⟨_, _, htook, rfl, fresh', rfl, -⟩
    exact ⟨_, _, htook, rfl, fresh ++ fresh', List.append_assoc _ _ _, fun _ hb => nomatch hb⟩

section Draining

variable (hfree : W.Free) (hkept : ∀ k, W.kept k = none)

include hfree hkept

/-- Closing the cursor behind a program does not change what it leaves. -/
theorem leaves_closing {R : Except Failure β → List Value → List Value → Prop}
    (hR : ∀ r e taken notes, R r taken notes → R (.error e) taken notes) {body : Program β}
    (hbody : body.wp .alone (Leaves W slot R) w s) :
    (c.closing body).wp .alone (Leaves W slot R) w s := by
  unfold closing
  rw [Program.wp_attempt_bind]
  refine Program.wp_mono hbody ?_
  rintro r w s ⟨taken, notes, htook, hr⟩
  cases r with
  | ok b =>
    exact Program.wp_seq (took_close hfree hkept htook)
      (fun _ w s h => ⟨taken, notes, h, hr⟩) fun e w s h => ⟨taken, notes, h, hR _ e _ _ hr⟩
  | error e =>
    exact Program.wp_seq (took_closeAfterFailure hfree hkept htook)
      (fun _ w s h => ⟨taken, notes, h, hr⟩) fun e' w s h => ⟨taken, notes, h, hR _ e' _ _ hr⟩

/-- The items of all further batches are what the mapper makes of the raw ones. -/
theorem leaves_collect (d : Deadline) (rounds : Nat) (h : W.Took slot taken notes w s)
    (hbuffer : (s.cursors c.ref).buffer = []) :
    (c.collect d rounds).wp .alone (Leaves W slot (c.Lists taken notes)) w s := by
  induction rounds generalizing w s taken with
  | zero => exact ⟨taken, notes, h, Lists.refl fun _ hb => by cases hb; rfl⟩
  | succ n ih =>
    unfold collect
    rw [wp_look]
    split
    case isFalse => exact ⟨taken, notes, h, Lists.refl fun _ hb => by cases hb; rfl⟩
    case isTrue hlive =>
      have hfetch : (c.fetchNext (some d)).wp .alone
          (fun _ w s => W.Took slot taken notes w s) w s :=
        h.wp hfree hkept fun W' hW' _ _ hquiet =>
          wp_fetchNext_quiet W'.hosts_alone hW' _ hquiet (needsFetch_iff.2 ⟨hbuffer, hlive⟩)
      refine Program.wp_seq hfetch (fun _ w s h => ?_) fun e w s h =>
        ⟨taken, notes, h, Lists.refl fun _ hb => by cases hb⟩
      refine Program.wp_seq (hands_drain hfree h) ?_ ?_
      · rintro items w s ⟨⟨fresh, htook, hgives⟩, hempty⟩
        exact leaves_append hgives (ih htook (hempty items rfl))
      · -- what cannot be converted has not been taken
        rintro e w s ⟨⟨fresh, htook, rfl⟩, -⟩
        rw [List.append_nil] at htook
        exact ⟨taken, notes, htook, Lists.refl fun _ hb => by cases hb⟩

/-- All that is left of a cursor is what the mapper makes of the raw items. -/
theorem leaves_toList (general timeout : Option Int) (h : W.Took slot taken notes w s) :
    (c.toList general timeout).wp .alone (Leaves W slot (c.Lists taken notes)) w s := by
  unfold toList toListWithin
  refine Program.wp_seq (took_deadline hfree hkept h _) (fun d w s h => ?_) fun e w s h =>
    ⟨taken, notes, h, Lists.refl fun _ hb => nomatch hb⟩
  refine leaves_closing hfree hkept ?_ ?_
  · rintro r e _ _ ⟨hnotes, fresh, htaken, -⟩
    exact ⟨hnotes, fresh, htaken, fun _ hb => nomatch hb⟩
  · refine Program.wp_seq (hands_drain hfree h) ?_ ?_
    · rintro items w s ⟨⟨fresh, htook, hgives⟩, hempty⟩
      rw [Program.wp_view_bind]
      exact leaves_append hgives (leaves_collect hfree hkept d _ htook (hempty items rfl))
    · rintro e w s ⟨⟨fresh, htook, rfl⟩, -⟩
      rw [List.append_nil] at htook
      exact ⟨taken, notes, htook, Lists.refl fun _ hb => nomatch hb⟩

/-! ### Visiting -/

/-- A function on items that first notes in a journal what it is called on. -/
def noting (slot : Nat) (shown : α → Value) (visit : α → Program Bool) (a : α) : Program Bool := do
  Program.update (.noted slot (shown a))
  visit a

/-- Whether a program neither changes a cursor nor writes to a journal. -/
def Spares (c : Cursor α) (slot : Nat) (p : Program β) : Prop :=
  p.Avoids c.ref (fun change => change.touches c.ref ∨ change.writes slot) fun _ => False

variable {shown : α → Value} {visit : α → Program Bool}

omit hfree in
/-- A remark is added to the journal. -/
theorem took_note (h : W.Took slot taken notes w s) (remark : Value) :
    W.Took slot taken (notes ++ [remark]) w (s.note slot remark) := by
  obtain ⟨L, hL, hlevel, hw, htaken, hnotes⟩ := h
  have hbars : ¬ W.Bars (.noted slot remark) := fun hbars => Watch.touches_of_bars hkept hbars
  refine ⟨L, hL.enact hbars, hlevel, hw, htaken, ?_⟩
  show (if slot = slot then s.journal slot ++ [remark] else _) = _
  rw [if_pos rfl, hnotes]

/-- A function that spares the cursor and the journal takes nothing. -/
theorem took_spares (hmine : ∀ q, ¬ W.mine q = true) {p : Program β} (hp : c.Spares slot p)
    (h : W.Took slot taken notes w s) :
    p.wp .alone (fun _ w s => W.Took slot taken notes w s) w s := by
  refine h.wp hfree hkept fun W' _ hmine' hkept' hquiet => ?_
  refine W'.hosts_alone.keeps_avoids (hp.weaken ?_ fun q hq => ?_) hquiet
  · rintro change (htouches | ⟨k, hk, hwrites⟩)
    · exact .inl htouches
    · rw [hkept' k hk] at hwrites
      exact .inr hwrites
  · rw [hmine'] at hq
    exact hmine q hq

/-- The journal tells of each item that is taken and visited. -/
theorem told_visitItems (hmine : ∀ q, ¬ W.mine q = true)
    (hvisit : ∀ a, c.Spares slot (visit a)) {pull : Program (Option α)}
    (hpull : ∀ {taken notes w s}, W.Took slot taken notes w s →
      pull.wp .alone (Hands W slot taken notes Option.toList) w s) (number : Nat)
    (h : c.Told W slot shown taken notes w s) :
    (visitItems pull (noting slot shown visit) number).wp .alone
      (fun _ w s => c.Told W slot shown taken notes w s) w s := by
  induction number generalizing w s with
  | zero => exact h
  | succ n ih =>
    obtain ⟨fresh, calls, htook, hgives⟩ := h
    unfold visitItems
    refine Program.wp_seq (hpull htook) ?_ ?_
    · rintro a? w s ⟨next, htook, hnext⟩
      rw [List.append_assoc] at htook
      cases a? with
      | none =>
        refine ⟨fresh ++ next, calls ++ [], ?_, hgives.append hnext⟩
        rw [List.append_nil]
        exact htook
      | some a =>
        -- the call is noted before it is made, so that it does not matter how it ends
        have hnoted := took_note hkept htook (shown a)
        rw [List.append_assoc] at hnoted
        refine Program.wp_seq
          (R := fun _ w s => c.Told W slot shown taken notes w s) ?_ ?_ fun _ _ _ h => h
        · unfold noting
          rw [Program.wp_update_bind]
          refine Program.wp_mono (took_spares hfree hkept hmine (hvisit a) hnoted) ?_
          intro r w s htook
          refine ⟨fresh ++ next, calls ++ [a], ?_, hgives.append hnext⟩
          rw [List.map_append]
          exact htook
        · intro on w s h
          split
          · exact ih h
          · exact h
    · rintro e w s ⟨next, htook, rfl⟩
      rw [List.append_nil] at htook
      exact ⟨fresh, calls, htook, hgives⟩

theorem told_visitAll (hmine : ∀ q, ¬ W.mine q = true)
    (hvisit : ∀ a, c.Spares slot (visit a)) {pull : Program (Option α)}
    (hpull : ∀ {taken notes w s}, W.Took slot taken notes w s →
      pull.wp .alone (Hands W slot taken notes Option.toList) w s)
    (h : c.Told W slot shown taken notes w s) :
    (c.visitAll pull (noting slot shown visit)).wp .alone
      (fun _ w s => c.Told W slot shown taken notes w s) w s := by
  -- the rounds are there only to end the loop: each adds to what has been told
  have hrounds : ∀ rounds w s, c.Told W slot shown taken notes w s →
      (c.visitRounds pull (noting slot shown visit) rounds).wp .alone
        (fun _ w s => c.Told W slot shown taken notes w s) w s := by
    intro rounds
    induction rounds with
    | zero => exact fun w s h => h
    | succ n ih =>
      intro w s h
      unfold visitRounds
      rw [wp_look]
      refine Program.wp_seq (told_visitItems hfree hkept hmine hvisit hpull _ h) ?_
        fun _ _ _ h => h
      intro on w s h
      split
      · exact ih w s h
      · exact h
  unfold visitAll
  rw [Program.wp_view_bind]
  exact hrounds _ w s h

/-- The function that goes through a cursor is called on what the mapper makes of the items that
are taken, whether it goes through to the end or not. -/
theorem told_forEach (hmine : ∀ q, ¬ W.mine q = true) (hvisit : ∀ a, c.Spares slot (visit a))
    (general timeout : Option Int) (h : W.Took slot taken notes w s) :
    (c.forEach (noting slot shown visit) general timeout).wp .alone
      (fun _ w s => c.Told W slot shown taken notes w s) w s := by
  have htold : ∀ {w s}, W.Took slot taken notes w s → c.Told W slot shown taken notes w s := by
    intro w s h
    refine ⟨[], [], ?_, gives_nil⟩
    rw [List.append_nil, List.map_nil, List.append_nil]
    exact h
  unfold forEach
  refine Program.wp_seq (took_deadline hfree hkept h _) (fun d w s h => ?_)
    fun _ _ _ h => htold h
  have hpull : ∀ {taken notes w s}, W.Took slot taken notes w s →
      (c.pullUnder d).wp .alone (Hands W slot taken notes Option.toList) w s := by
    intro taken notes w s h
    unfold pullUnder
    exact Program.wp_seq (took_fill hfree hkept h _) (fun _ w s h => hands_pop hfree h)
      fun _ _ _ h => Hands.of_took h fun _ hb => nomatch hb
  let R : Except Failure Unit → List Value → List Value → Prop := fun _ taken' notes' =>
    ∃ fresh calls, taken' = taken ++ fresh ∧ notes' = notes ++ calls.map shown ∧
      c.Gives fresh calls
  have hbody : (c.visitAll (c.pullUnder d) (noting slot shown visit)).wp .alone
      (Leaves W slot R) w s := by
    refine Program.wp_mono (told_visitAll hfree hkept hmine hvisit hpull (htold h)) ?_
    rintro r w s ⟨fresh, calls, htook, hgives⟩
    exact ⟨_, _, htook, fresh, calls, rfl, rfl, hgives⟩
  refine Program.wp_mono (leaves_closing hfree hkept (fun _ _ _ _ h => h) hbody) ?_
  rintro r w s ⟨_, _, htook, fresh, calls, rfl, rfl, hgives⟩
  exact ⟨fresh, calls, htook, hgives⟩

end Draining

end Cursor

end AqlClient
