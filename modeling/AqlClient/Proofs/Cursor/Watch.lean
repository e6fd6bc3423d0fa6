import AqlClient.Cursor.Basic
import AqlClient.Proofs.Cursor.Ledger
import AqlClient.Proofs.Program.Logic

/-!
# Watching a cursor

A watch over a cursor (`Watch`) begins at some point of the history with sound books, and has
rules for what may happen from there on:

* a request that is the cursor's own (`Watch.mine`) is either a fetch, which is sent while the
  cursor is live and its buffer is empty (`Ledger.MayFetch`), or a release, which is sent where
  one is owed (`Ledger.MayRelease`);
* a change of the cursor is one that the watch allows, and it fits the books (`Ledger.Fits`);
* some journals are kept as they are (`Watch.kept`).

`Watch.Course L s` says that the rules have been obeyed up to the scene `s`, where the books
read `L`. There is one lemma for each kind of step. What is proved about programs rests on
these, and not on the history.

`Watch.Quiet` is the part of it that a program can rely on whatever others do: the rules have
been obeyed, no batch is half-way settled, and the flag of the cursor says whether one is on its
way. A program *keeps* the watch if it ends in a quiet scene when it starts in one
(`Watch.Keeps`).
-/

namespace AqlClient

variable {α β : Type}

/-- **A watch over a cursor:** its rules, and the point of the history where it began. -/
structure Watch (c : Cursor α) where
  mine : Request → Bool
  allows : CursorChange → Prop
  kept : Nat → Option (List Value)
  past : List Event
  opening : Ledger
  sound : opening.Sound c.service.mode

namespace Watch

variable {c : Cursor α} (W : Watch c)

/-! ### The rules -/

/-- What may happen next when the books read `L`. -/
def Permits (L : Ledger) : Event → Prop
  | .sent _ q => W.mine q = true →
      (q.method = "PUT" ∧ L.MayFetch c.service.mode) ∨ (q.method = "DELETE" ∧ L.MayRelease)
  | .made ref => ref ≠ c.ref
  | .cursor ref change => ref = c.ref → W.allows change ∧ L.Fits c.service.mode change

/-- What may happen one after the other when the books read `L` to begin with. -/
def Lawful : Ledger → List Event → Prop
  | _, [] => True
  | L, e :: events => W.Permits L e ∧ Lawful (L.read c.ref e) events

variable {W}

theorem lawful_append {L : Ledger} {events more : List Event} :
    W.Lawful L (events ++ more) ↔
      W.Lawful L events ∧ W.Lawful (L.through c.ref events) more := by
  induction events generalizing L with
  | nil => exact ⟨fun h => ⟨trivial, h⟩, fun h => h.2⟩
  | cons e events ih =>
    change W.Permits L e ∧ W.Lawful (L.read c.ref e) (events ++ more) ↔ _
    rw [ih, ← and_assoc]
    rfl

/-- What holds after a request and after each change that fits holds after any event that the
rules permit. -/
theorem Permits.invariant {P : Ledger → Prop} {L : Ledger} {e : Event} (h : W.Permits L e)
    (hL : P L) (hsent : P { L with owed := false })
    (hnote : ∀ change, W.allows change → L.Fits c.service.mode change → P (L.note change)) :
    P (L.read c.ref e) := by
  cases e with
  | sent time q => exact hsent
  | made ref =>
    rw [Ledger.read_made_of_ne h]
    exact hL
  | cursor ref change =>
    -- what happens to other cursors does not enter the books on this one
    by_cases hr : ref = c.ref
    · subst hr
      rw [Ledger.read_cursor_self]
      exact hnote change (h rfl).1 (h rfl).2
    · rw [Ledger.read_cursor_of_ne change hr]
      exact hL

/-- **What each step keeps is kept under the rules.** -/
theorem Lawful.invariant {P : Ledger → Prop} {L : Ledger} {events : List Event}
    (h : W.Lawful L events) (hL : P L) (hsent : ∀ L, P L → P { L with owed := false })
    (hnote : ∀ L change, P L → W.allows change → L.Fits c.service.mode change →
      P (L.note change)) : P (L.through c.ref events) := by
  induction events generalizing L with
  | nil => exact hL
  | cons e events ih =>
    exact ih h.2 (h.1.invariant hL (hsent L hL) fun change => hnote L change hL)

theorem Permits.sound {L : Ledger} {e : Event} (hL : L.Sound c.service.mode)
    (h : W.Permits L e) : (L.read c.ref e).Sound c.service.mode :=
  h.invariant hL hL.settleDebt fun _ _ hfit => hL.note hfit

/-- **Sound books stay sound under the rules.** -/
theorem Lawful.sound {L : Ledger} {events : List Event} (hL : L.Sound c.service.mode)
    (h : W.Lawful L events) : (L.through c.ref events).Sound c.service.mode :=
  h.invariant hL (fun _ hL => hL.settleDebt) fun _ _ hL _ hfit => hL.note hfit

variable (W)

/-! ### The course of a watch -/

/-- **The rules have been obeyed** up to a scene, where the books read `L`. -/
structure Course (L : Ledger) (s : Scene) : Prop where
  /-- What has happened since the watch began was permitted, and the books account for it. -/
  events : ∃ events, s.history = W.past ++ events ∧ W.Lawful W.opening events ∧
    L = W.opening.through c.ref events
  /-- The cursor is in the state that the books say. -/
  state : s.cursors c.ref = L.state
  /-- The cursor has its place. -/
  placed : c.ref < s.cursorCount
  /-- The journals that are to be kept have been. -/
  kept : ∀ slot notes, W.kept slot = some notes → s.journal slot = notes

/-- The steps that the rules forbid to everyone but the cursor. -/
def Bars (change : Change) : Prop :=
  change.touches c.ref ∨ ∃ slot, (W.kept slot).isSome ∧ change.writes slot

/-- Where no journal is to be kept, only the changes of the cursor are forbidden. -/
theorem touches_of_bars {W : Watch c} (hkept : ∀ slot, W.kept slot = none) {change : Change}
    (h : W.Bars change) : change.touches c.ref := by
  obtain htouches | ⟨slot, hsome, -⟩ := h
  · exact htouches
  · rw [hkept slot] at hsome
    cases hsome

/-- The same rules, from another point of the history on. -/
def resumed (past : List Event) {L : Ledger} (hL : L.Sound c.service.mode) : Watch c :=
  { W with past := past, opening := L, sound := hL }

variable {W}
variable {L : Ledger} {s s' : Scene}

namespace Course

theorem sound (h : W.Course L s) : L.Sound c.service.mode := by
  obtain ⟨events, -, hlaw, rfl⟩ := h.events
  exact hlaw.sound W.sound

/-- Nothing has happened yet. -/
theorem start (hs : s.history = W.past) (hstate : s.cursors c.ref = W.opening.state)
    (hplaced : c.ref < s.cursorCount)
    (hkept : ∀ slot notes, W.kept slot = some notes → s.journal slot = notes) :
    W.Course W.opening s where
  events := ⟨[], by rw [hs, List.append_nil], trivial, rfl⟩
  state := hstate
  placed := hplaced
  kept := hkept

/-- A watch begins again where another one is, with books that agree on the cursor. -/
theorem resumed (h : W.Course L s) {M : Ledger} (hM : M.Sound c.service.mode)
    (hstate : M.state = L.state) : (W.resumed s.history hM).Course M s :=
  start (W := W.resumed s.history hM) rfl (h.state.trans hstate.symm) h.placed h.kept

/-- The books are what the history says, if they were to begin with. -/
theorem books (h : W.Course L s) (hopening : W.opening = Ledger.of c.ref W.past) :
    Ledger.of c.ref s.history = L := by
  obtain ⟨events, hhistory, -, rfl⟩ := h.events
  rw [hhistory, Ledger.of_append, hopening]

/-- A point of the history since the watch began divides what has happened under the rules. -/
theorem split (h : W.Course L s) (hopening : W.opening = Ledger.of c.ref W.past)
    {history : List Event} (hpast : W.past <+: history) (hhistory : history <+: s.history) :
    ∃ events more, s.history = history ++ more ∧ W.Lawful W.opening events ∧
      Ledger.of c.ref history = W.opening.through c.ref events ∧
      W.Lawful (Ledger.of c.ref history) more := by
  obtain ⟨events, hs, hlaw, -⟩ := h.events
  obtain ⟨before, rfl⟩ := hpast
  obtain ⟨after, hafter⟩ := hhistory
  have hbooks : Ledger.of c.ref (W.past ++ before) = W.opening.through c.ref before := by
    rw [Ledger.of_append, ← hopening]
  rw [hs, List.append_assoc] at hafter
  rw [← List.append_cancel_left hafter, lawful_append, ← hbooks] at hlaw
  refine ⟨before, after, ?_, hlaw.1, hbooks, hlaw.2⟩
  rw [hs, ← hafter, List.append_assoc]

/-- The books were sound at every point of the history since the watch began. -/
theorem sound_of_prefix (h : W.Course L s) (hopening : W.opening = Ledger.of c.ref W.past)
    {history : List Event} (hpast : W.past <+: history) (hhistory : history <+: s.history) :
    (Ledger.of c.ref history).Sound c.service.mode := by
  obtain ⟨events, more, -, hlaw, hbooks, -⟩ := h.split hopening hpast hhistory
  rw [hbooks]
  exact hlaw.sound W.sound

/-- One more event, which the rules permit. -/
theorem extend (h : W.Course L s) {e : Event} (hp : W.Permits L e)
    (hhist : s'.history = s.history ++ [e]) (hstate : s'.cursors c.ref = (L.read c.ref e).state)
    (hcount : s.cursorCount ≤ s'.cursorCount)
    (hkept : ∀ slot notes, W.kept slot = some notes → s'.journal slot = notes) :
    W.Course (L.read c.ref e) s' where
  events := by
    obtain ⟨events, hs, hlaw, rfl⟩ := h.events
    refine ⟨events ++ [e], ?_, lawful_append.2 ⟨hlaw, hp, trivial⟩, ?_⟩
    · rw [hhist, hs, List.append_assoc]
    · rw [Ledger.through_append]; rfl
  state := hstate
  placed := Nat.lt_of_lt_of_le h.placed hcount
  kept := hkept

/-- The course of a watch depends on nothing but the history, the state of the cursor, the
number of places and the journals. -/
theorem congr (h : W.Course L s) (hhist : s'.history = s.history)
    (hcursors : s'.cursors = s.cursors) (hcount : s'.cursorCount = s.cursorCount)
    (hjournal : s'.journal = s.journal) : W.Course L s' where
  events := hhist ▸ h.events
  state := hcursors ▸ h.state
  placed := hcount ▸ h.placed
  kept := hjournal ▸ h.kept

theorem record (h : W.Course L s) (level : LogLevel) (text : String) :
    W.Course L (s.record level text) :=
  h.congr rfl rfl rfl rfl

theorem elapse (h : W.Course L s) (ms : Int) : W.Course L (s.elapse ms) :=
  h.congr rfl rfl rfl rfl

/-- The cursor changes in a way that is allowed and fits. -/
theorem change (h : W.Course L s) {change : CursorChange} (hallows : W.allows change)
    (hfit : L.Fits c.service.mode change) :
    W.Course (L.note change) (s.changeCursor c.ref change) := by
  have hread : L.read c.ref (.cursor c.ref change) = L.note change := Ledger.read_cursor_self _
  rw [← hread]
  refine h.extend (fun _ => ⟨hallows, hfit⟩) rfl ?_ (Nat.le_refl _) h.kept
  rw [hread, Ledger.note_state, ← h.state, Scene.changeCursor_cursors_self]

/-- A request is sent. What the cursor owed is settled by it. -/
theorem send (h : W.Course L s) {q : Request} (hp : W.Permits L (.sent s.now q)) :
    W.Course { L with owed := false } (s.send q).2 :=
  h.extend hp (s.send_history q) h.state (Nat.le_refl _) h.kept

/-- Another cursor gets its place. -/
theorem addCursor (h : W.Course L s) : W.Course L s.addCursor := by
  have hne : s.cursorCount ≠ c.ref := Nat.ne_of_gt h.placed
  have hread : L.read c.ref (.made s.cursorCount) = L := Ledger.read_made_of_ne hne
  rw [← hread]
  refine h.extend hne rfl ?_ (Nat.le_succ _) h.kept
  rw [hread, ← h.state, Scene.addCursor_cursors_of_ne s hne.symm]

/-- A step that concerns neither the cursor nor a journal to be kept. -/
theorem enact (h : W.Course L s) {change : Change} (hb : ¬ W.Bars change) :
    W.Course L (s.enact change) := by
  cases change with
  | elapsed ms => exact h.elapse ms
  | logged level text => exact h.record level text
  | cursorMade => exact h.addCursor
  | cursor ref change =>
    have hne : ref ≠ c.ref := fun he => hb (.inl he)
    have hread : L.read c.ref (.cursor ref change) = L := Ledger.read_cursor_of_ne change hne
    rw [← hread]
    refine h.extend (fun he => absurd he hne) rfl ?_ (Nat.le_refl _) h.kept
    rw [hread, ← h.state]
    exact Scene.changeCursor_cursors_of_ne s ref change hne.symm
  | sessionMade => exact h.congr rfl rfl rfl rfl
  | transportClosed => exact h.congr rfl rfl rfl rfl
  | noted ref remark =>
    -- nothing is remembered of it, and the journals to be kept are others
    refine ⟨h.events, h.state, h.placed, fun slot notes hk => ?_⟩
    have hne : slot ≠ ref := fun he => hb (.inr ⟨slot, by rw [hk]; rfl, he.symm⟩)
    rw [← h.kept slot notes hk]
    exact if_neg hne

end Course

/-! ### Keeping a watch -/

variable (W)

/-- The rules have been obeyed, no batch is half-way settled, and the flag says whether one is on
its way. -/
def Quiet (flag : Bool) (s : Scene) : Prop :=
  ∃ L, W.Course L s ∧ L.Level ∧ L.state.fetching = flag

/-- **A program keeps the watch** if it ends in a quiet scene when it starts in one. The view of
a program is whether a batch is on its way for someone else. -/
def Keeps (D : Discipline Bool) (p : Program β) : Prop :=
  ∀ ⦃w s⦄, W.Quiet w s → p.wp D (fun _ w s => W.Quiet w s) w s

variable {W}
variable {D : Discipline Bool} {w : Bool}

theorem Course.quiet (h : W.Course L s) (hlevel : L.Level) : W.Quiet L.state.fetching s :=
  ⟨L, h, hlevel, rfl⟩

theorem Quiet.record (h : W.Quiet w s) (level : LogLevel) (text : String) :
    W.Quiet w (s.record level text) := by
  obtain ⟨L, hL, hlevel, hw⟩ := h
  exact ⟨L, hL.record level text, hlevel, hw⟩

theorem Quiet.elapse (h : W.Quiet w s) (ms : Int) : W.Quiet w (s.elapse ms) := by
  obtain ⟨L, hL, hlevel, hw⟩ := h
  exact ⟨L, hL.elapse ms, hlevel, hw⟩

end Watch

end AqlClient
