import AqlClient.Proofs.Cursor.Taking

/-!
# What a cursor delivers

A cursor that is used by one caller, who goes on whatever comes of each use
(`Cursor.Use.performAll`), delivers what has arrived, without gaps or repetitions
(`Cursor.opened_delivers`). That the items which are taken out of the buffer are the ones that
have arrived is in the books (`Ledger.Exact`), and the books are sound whatever is done with
the cursor. What each use gives for the items that it takes is `Cursor.Use.Gives`, read off the
way in which its operation ends (`Cursor.Use.delivers_perform`).
-/

namespace AqlClient

variable {α β : Type} {c : Cursor α}

namespace Cursor

/-! ### A run of uses -/

/-- A way to use a cursor. -/
inductive Use (α : Type) where
  | next
  | nextBatch
  | hasNext
  | toList (general timeout : Option Int)
  | forEach (visit : α → Program Bool) (general timeout : Option Int)
  | close

/-- What a use comes to. -/
inductive Answer (α : Type) where
  | item (a? : Option α)
  | items (list : List α)
  | flag (b : Bool)
  | nothing

/-- The items in an answer. -/
def Answer.given : Answer α → List α
  | .item a? => a?.toList
  | .items list => list
  | .flag _ => []
  | .nothing => []

namespace Use

/-- Uses a cursor. The items that a function is called on are noted in a journal. -/
def perform (c : Cursor α) (slot : Nat) (shown : α → Value) : Use α → Program (Answer α)
  | .next => do return .item (← c.next?)
  | .nextBatch => do return .items (← c.nextBatch)
  | .hasNext => do return .flag (← c.hasNext)
  | .toList general timeout => do return .items (← c.toList general timeout)
  | .forEach visit general timeout => do
    c.forEach (noting slot shown visit) general timeout
    return .nothing
  | .close => do
    c.close
    return .nothing

/-- Uses a cursor again and again, whatever comes of it. -/
def performAll (c : Cursor α) (slot : Nat) (shown : α → Value) :
    List (Use α) → Program Unit
  | [] => pure ()
  | u :: uses => do
    let _ ← (u.perform c slot shown).attempt
    performAll c slot shown uses

/-- The functions that are called on items spare the cursor and the journal. -/
def Spares (c : Cursor α) (slot : Nat) : Use α → Prop
  | .forEach visit _ _ => ∀ a, c.Spares slot (visit a)
  | _ => True

/-- What a use gives for the items that are taken meanwhile: it returns what the mapper makes of
them, or it calls a function on that. Some uses take nothing, and one that fails has taken
nothing either, unless it is about all that is left. -/
def Gives (c : Cursor α) (fresh : List Value) (calls : List α) (r : Except Failure (Answer α)) :
    Use α → Prop
  | .hasNext | .close => fresh = [] ∧ calls = []
  | .next | .nextBatch => calls = [] ∧
    match r with
    | .ok answer => c.Gives fresh answer.given
    | .error _ => fresh = []
  | .toList .. => calls = [] ∧ ∀ answer, r = .ok answer → c.Gives fresh answer.given
  | .forEach .. => c.Gives fresh calls

variable {W : Watch c} {w : Bool} {s : Scene} {slot : Nat} {taken notes : List Value}
  {shown : α → Value}

/-- The items that are taken by a use are given, as the mapper has made them. -/
def HandsOut (c : Cursor α) (W : Watch c) (slot : Nat) (shown : α → Value)
    (taken notes : List Value) (u : Use α) (r : Except Failure (Answer α)) (w : Bool)
    (s : Scene) : Prop :=
  ∃ fresh calls, W.Took slot (taken ++ fresh) (notes ++ calls.map shown) w s ∧
    u.Gives c fresh calls r

/-- A use without calls delivers what its operation hands out. -/
theorem delivers_of_hands {u : Use α} {p : Program β} {given : β → List α} (answer : β → Answer α)
    (hp : p.wp .alone (Hands W slot taken notes given) w s)
    (hok : ∀ fresh b, c.Gives fresh (given b) → u.Gives c fresh [] (.ok (answer b)))
    (herror : ∀ e, u.Gives c [] [] (.error e)) :
    (do return answer (← p)).wp .alone (HandsOut c W slot shown taken notes u) w s := by
  have hcalls : notes ++ ([] : List α).map shown = notes := List.append_nil notes
  refine Program.wp_seq hp ?_ ?_
  · rintro b w s ⟨fresh, htook, hgives⟩
    rw [← hcalls] at htook
    exact ⟨fresh, [], htook, hok fresh b hgives⟩
  · rintro e w s ⟨fresh, htook, rfl⟩
    rw [← hcalls] at htook
    exact ⟨[], [], htook, herror e⟩

theorem delivers_perform (hfree : W.Free) (hkept : ∀ k, W.kept k = none)
    (hmine : ∀ q, ¬ W.mine q = true) {u : Use α} (hu : u.Spares c slot)
    (h : W.Took slot taken notes w s) :
    (u.perform c slot shown).wp .alone (HandsOut c W slot shown taken notes u) w s := by
  have hnone : ∀ {fresh : List Value}, c.Gives fresh [] → fresh = [] := List.map_eq_nil_iff.1
  cases u with
  | next =>
    exact delivers_of_hands .item (hands_next hfree hkept h)
      (fun fresh a? hgives => ⟨rfl, hgives⟩) fun e => ⟨rfl, rfl⟩
  | nextBatch =>
    exact delivers_of_hands .items (hands_nextBatch hfree hkept h)
      (fun fresh items hgives => ⟨rfl, hgives⟩) fun e => ⟨rfl, rfl⟩
  | hasNext =>
    exact delivers_of_hands .flag (hands_hasNext hfree hkept h)
      (fun fresh b hgives => ⟨hnone hgives, rfl⟩) fun e => ⟨rfl, rfl⟩
  | close =>
    exact delivers_of_hands (fun _ => .nothing) (hands_close hfree hkept h)
      (fun fresh b hgives => ⟨hnone hgives, rfl⟩) fun e => ⟨rfl, rfl⟩
  | toList general timeout =>
    have hcalls : notes ++ ([] : List α).map shown = notes := List.append_nil notes
    refine Program.wp_seq (leaves_toList hfree hkept general timeout h) ?_ ?_
    · rintro items w s ⟨_, _, htook, rfl, fresh, rfl, hgives⟩
      rw [← hcalls] at htook
      refine ⟨fresh, [], htook, rfl, ?_⟩
      rintro _ ⟨⟩
      exact hgives items rfl
    · rintro e w s ⟨_, _, htook, rfl, fresh, rfl, -⟩
      rw [← hcalls] at htook
      exact ⟨fresh, [], htook, rfl, fun _ hb => nomatch hb⟩
  | forEach visit general timeout =>
    refine Program.wp_seq (told_forEach hfree hkept hmine hu general timeout h) ?_ ?_
    · exact fun _ w s ⟨fresh, calls, htook, hgives⟩ => ⟨fresh, calls, htook, hgives⟩
    · exact fun _ w s ⟨fresh, calls, htook, hgives⟩ => ⟨fresh, calls, htook, hgives⟩

/-- Some items have been taken, and some remarks made, after any number of uses. -/
theorem took_performAll (hfree : W.Free) (hkept : ∀ k, W.kept k = none)
    (hmine : ∀ q, ¬ W.mine q = true) {uses : List (Use α)}
    (huses : ∀ u ∈ uses, u.Spares c slot) (h : W.Took slot taken notes w s) :
    (performAll c slot shown uses).wp .alone
      (fun _ w s => ∃ taken notes, W.Took slot taken notes w s) w s := by
  induction uses generalizing taken notes w s with
  | nil => exact ⟨taken, notes, h⟩
  | cons u uses ih =>
    unfold performAll
    rw [Program.wp_attempt_bind]
    refine Program.wp_mono (delivers_perform hfree hkept hmine (huses u List.mem_cons_self) h) ?_
    rintro r w s ⟨fresh, calls, htook, -⟩
    exact ih (fun v hv => huses v (List.mem_cons_of_mem u hv)) htook

end Use

/-! ### Looking ahead -/

/-- A cursor that is found to have a next item holds it. -/
theorem wp_hasNext_buffer (s : Scene) :
    c.hasNext.wp .alone (fun r _ s => r = .ok true → (s.cursors c.ref).buffer ≠ []) false s := by
  unfold hasNext
  rw [wp_look]
  split
  · exact fun hr => nomatch hr
  · have hfill : (c.fill none).wp .alone (fun _ _ _ => True) false s :=
      (Program.wp_alone _).2 trivial
    refine Program.wp_seq hfill (fun _ w s _ => ?_) fun e w s _ hr => nomatch hr
    rw [wp_look, Program.wp_pure]
    intro hr hempty
    rw [hempty] at hr
    cases hr

/-- The next item is not asked for while the cursor holds one. -/
theorem sent_of_buffer {s : Scene} (h : (s.cursors c.ref).buffer ≠ []) :
    (c.next?.run s).2.sent = s.sent := by
  have hempty : (s.cursors c.ref).buffer.isEmpty = false := by
    rw [Bool.eq_false_iff, ne_eq, List.isEmpty_iff]
    exact h
  have hneeds : ¬ (s.cursors c.ref).needsFetch = true := by
    unfold CursorState.needsFetch
    rw [hempty]
    exact Bool.false_ne_true
  have hpop : c.pop?.wp .alone (fun _ _ s' => s'.sent = s.sent) false s := by
    have hhand : (c.handOut 1).wp .alone (fun _ _ s' => s'.sent = s.sent) false s := by
      rw [wp_handOut]
      split
      · show (s.history ++ [_]).filterMap Event.request? = _
        rw [List.filterMap_append]
        exact List.append_nil _
      · rfl
    exact Program.wp_seq hhand (fun _ _ _ h => h) fun _ _ _ h => h
  have hwp : c.next?.wp .alone (fun _ _ s' => s'.sent = s.sent) false s := by
    unfold next?
    rw [wp_look]
    split
    · rfl
    · -- the first look already shows that no fetch is needed
      unfold fill
      rw [Program.wp_bind, Program.wp_view_bind]
      unfold Scene.horizon fillWithin
      rw [wp_look, if_neg hneeds, Program.wp_pure, Program.chain_ok, wp_look, hempty]
      exact hpop
  exact (Program.wp_alone _).1 hwp

/-- **An item that has been seen ahead is there:** the use behind it sends nothing for it. -/
theorem sent_of_hasNext (slot : Nat) (shown : α → Value) {s s' : Scene}
    (h : ((Use.hasNext : Use α).perform c slot shown).run s = (.ok (.flag true), s')) :
    (c.next?.run s').2.sent = s'.sent := by
  have hahead : ((Use.hasNext : Use α).perform c slot shown).wp .alone
      (fun r _ s => r = .ok (.flag true) → (s.cursors c.ref).buffer ≠ []) false s := by
    refine Program.wp_seq (wp_hasNext_buffer s) ?_ fun e _ _ _ hr => nomatch hr
    intro b w s hbuffer hflag
    cases hflag
    exact hbuffer rfl
  exact sent_of_buffer (Program.run_of_wp hahead h rfl)

/-! ### The books -/

variable {service : QueryService} {mapper : Mapper α} {requestLimit overallLimit : Value}
  {first : Batch} {s₀ s₁ : Scene}

/-- **What the next use of a cursor delivers,** which was made in one scene and is used from
another on. -/
structure Delivers (c : Cursor α) (slot : Nat) (shown : α → Value) (made s : Scene) (u : Use α)
    (r : Except Failure (Answer α)) (s' : Scene) : Prop where
  /-- The books are exact at any point of the history, also in between. -/
  books : ∀ h, made.history <+: h → h <+: s'.history → (Ledger.of c.ref h).Exact
  /-- The state of the cursor is the one in the books. -/
  state : s'.cursors c.ref = (Ledger.of c.ref s'.history).state
  /-- The items that are taken are given as the mapper makes them. -/
  given : ∃ fresh calls,
    (Ledger.of c.ref s'.history).taken = (Ledger.of c.ref s.history).taken ++ fresh ∧
      s'.journal slot = s.journal slot ++ calls.map shown ∧ u.Gives c fresh calls r
  /-- An item that has been seen ahead is there. -/
  ahead : u = .hasNext → r = .ok (.flag true) → (c.next?.run s').2.sent = s'.sent

/-- **Nothing is lost, doubled or put out of order.** However a cursor has been used since it was
made, what has been taken out of its buffer is a prefix of what has arrived, and all of it
together with the buffer unless the cursor is closed. The items that the next use takes are given
to the caller as the mapper makes them. -/
theorem opened_delivers
    (hopen : (opened service mapper requestLimit overallLimit first).run s₀ = (.ok c, s₁))
    (slot : Nat) (shown : α → Value) (uses : List (Use α)) (u : Use α)
    (hspares : ∀ v ∈ u :: uses, v.Spares c slot) :
    let s := ((Use.performAll c slot shown uses).run s₁).2
    c.Delivers slot shown s₁ s u ((u.perform c slot shown).run s).1
      ((u.perform c slot shown).run s).2 := by
  obtain ⟨-, -, hfresh⟩ := fresh_of_opened hopen
  -- no request counts as the cursor's own here: what is sent is of no concern to the items
  let W := Watch.sinceMaking c (fun _ => false) first s₁.history
  have hfree : W.Free := fun _ => trivial
  have hkept : ∀ k, W.kept k = none := fun _ => rfl
  have hmine : ∀ q, ¬ W.mine q = true := fun _ => Bool.false_ne_true
  have hbooks : W.opening = Ledger.of c.ref W.past := hfresh.books.symm
  have hstart : W.Took slot [] (s₁.journal slot) false s₁ := by
    obtain ⟨L, hL, hlevel, hw⟩ := hfresh.quiet fun _ => false
    have hopened : L = Ledger.opened first := by
      rw [← hL.books hbooks, hfresh.books]
    exact ⟨L, hL, hlevel, hw, by rw [hopened]; rfl, rfl⟩
  intro s
  obtain ⟨taken, notes, htook⟩ : ∃ taken notes, W.Took slot taken notes false s :=
    (Program.wp_alone (Use.performAll c slot shown uses)).1 (Use.took_performAll hfree hkept hmine
      (fun v hv => hspares v (List.mem_cons_of_mem u hv)) hstart)
  obtain ⟨fresh, calls, htook', hgives⟩ :=
    (Program.wp_alone (u.perform c slot shown)).1 (Use.delivers_perform hfree hkept hmine
      (hspares u List.mem_cons_self) htook)
  obtain ⟨L, hL, -, -, htaken, hnotes⟩ := htook
  obtain ⟨L', hL', -, -, htaken', hnotes'⟩ := htook'
  refine ⟨?_, ?_, ⟨fresh, calls, ?_, ?_, hgives⟩, ?_⟩
  · intro history hpast hhistory
    exact (hL'.sound_of_prefix hbooks hpast hhistory).exact
  · rw [hL'.books hbooks]
    exact hL'.state
  · rw [hL'.books hbooks, hL.books hbooks, htaken, htaken']
  · rw [hnotes, hnotes']
  · -- nothing happens between the question and the next use, so that the item is still there
    rintro rfl hflag
    exact sent_of_hasNext slot shown (Prod.ext hflag rfl)

/-- A function is called on what is left behind the first item. -/
theorem opened_delivers_specimen : ∃ c s₁,
    (opened (Database.specimen .blocking).service Mapper.raw .null .null Batch.specimen).run
      (Scene.start 0 []) = (.ok c, s₁) ∧
    (∀ v ∈ [Use.forEach (fun _ => pure true) none none, .next], v.Spares c 0) ∧
    let s := ((Use.performAll c 0 id [.next]).run s₁).2
    c.Delivers 0 id s₁ s (.forEach (fun _ => pure true) none none)
      (((Use.forEach (fun _ => pure true) none none).perform c 0 id).run s).1
      (((Use.forEach (fun _ => pure true) none none).perform c 0 id).run s).2 := by
  obtain ⟨c, s₁, hopen⟩ := opened_specimen .blocking (Scene.start 0 [])
  have hspares : ∀ v ∈ [Use.forEach (fun _ => pure true) none none, .next], v.Spares c 0 := by
    simp [Use.Spares, Spares, Program.Avoids, pure]
  exact ⟨c, s₁, hopen, hspares, opened_delivers hopen 0 id [.next] _ hspares⟩

end Cursor

end AqlClient
