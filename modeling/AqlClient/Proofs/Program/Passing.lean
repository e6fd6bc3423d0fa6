import AqlClient.Proofs.Program.Exchange

/-!
# What passes between two scenes

Much of what is said about a program speaks of little more than the script and the clock. What is on
the clock after a number of further exchanges stands in the script already (`Scene.timeAfter`).

* `Scene.Exchanged`: one exchange has been made;
* `Scene.Still`: none has been made, and no time has passed;
* `Scene.Later`: some outcomes have been taken from the script.

None of them speaks of the cursors or of the log.
-/

namespace AqlClient

variable {ω : Type}

/-- The time on the clock once a number of outcomes have been delivered. -/
def Scene.timeAfter (s : Scene) (number : Nat) : Int :=
  (s.script.take number).foldl (fun time o => time + o.elapsed) s.now

theorem Scene.timeAfter_zero (s : Scene) : s.timeAfter 0 = s.now := rfl

/-- A time that is on the clock once some outcomes have been delivered. -/
def Scene.Moment (s : Scene) (now : Int) : Prop := ∃ number, now = s.timeAfter number

theorem Scene.moment_now (s : Scene) : s.Moment s.now := ⟨0, s.timeAfter_zero.symm⟩

/-- **One exchange has been made,** and nothing else has happened but to the cursors and to the
log. -/
structure Scene.Exchanged (q : Request) (s s' : Scene) : Prop where
  script : s'.script = s.script.tail
  time : ∀ number, s'.timeAfter number = s.timeAfter (number + 1)
  journal : s'.journal = s.journal
  sent : s'.sent = s.sent ++ [q]

namespace Scene

/-- A scene without its log. -/
def unlogged (s : Scene) : Scene := { s with log := [] }

theorem logless_unlogged (s : Scene) : Logless fun (_ : ω) s' => s'.unlogged = s.unlogged :=
  fun _ _ _ _ h => h

/-- The scene behind an exchange. -/
theorem exchanged_of_unlogged {s s' : Scene} {q : Request}
    (h : s'.unlogged = ((s.send q).2.elapse (s.send q).1.elapsed).unlogged) : s.Exchanged q s' := by
  have hscript : s'.script = s.script.tail := congrArg script h
  have hnow : s'.now = s.now + (s.send q).1.elapsed := congrArg now h
  have hhistory : s'.history = s.history ++ [.sent s.now q] := congrArg history h
  refine ⟨hscript, fun number => ?_, (congrArg journal h :), ?_⟩
  · unfold timeAfter
    rw [hscript, hnow]
    unfold Scene.send
    cases s.script with
    | nil =>
      -- once the script is over, no time passes any more
      rw [List.tail_nil, List.take_nil, List.take_nil]
      exact Int.add_zero _
    | cons o more => rfl
  · unfold sent
    rw [hhistory, List.filterMap_append]
    rfl

/-- What happens to a cursor is no request. -/
@[simp] theorem changeCursor_sent (s : Scene) (ref : Nat) (change : CursorChange) :
    (s.changeCursor ref change).sent = s.sent := by
  unfold sent
  show (s.history ++ [_]).filterMap Event.request? = _
  rw [List.filterMap_append]
  exact List.append_nil _

theorem Exchanged.change {s s' : Scene} {q : Request} (h : s.Exchanged q s') (ref : Nat)
    (change : CursorChange) : s.Exchanged q (s'.changeCursor ref change) where
  script := h.script
  time := h.time
  journal := h.journal
  sent := by rw [changeCursor_sent, h.sent]

/-! ### Nothing at all -/

/-- **Nothing has happened** but to the cursors and to the log. -/
structure Still (s s' : Scene) : Prop where
  script : s'.script = s.script
  now : s'.now = s.now
  journal : s'.journal = s.journal
  sent : s'.sent = s.sent

theorem Still.refl (s : Scene) : s.Still s := ⟨rfl, rfl, rfl, rfl⟩

theorem Still.change {s s' : Scene} (h : s.Still s') (ref : Nat) (change : CursorChange) :
    s.Still (s'.changeCursor ref change) where
  script := h.script
  now := h.now
  journal := h.journal
  sent := by rw [changeCursor_sent, h.sent]

theorem Still.trans {s s' s'' : Scene} (h : s.Still s') (h' : s'.Still s'') : s.Still s'' where
  script := h'.script.trans h.script
  now := h'.now.trans h.now
  journal := h'.journal.trans h.journal
  sent := h'.sent.trans h.sent

theorem Still.timeAfter {s s' : Scene} (h : s.Still s') (number : Nat) :
    s'.timeAfter number = s.timeAfter number := by
  unfold Scene.timeAfter
  rw [h.now, h.script]

/-- Nothing happens behind an exchange. -/
theorem Exchanged.still {s s' s'' : Scene} {q : Request} (h : s.Exchanged q s')
    (h' : s'.Still s'') : s.Exchanged q s'' where
  script := by rw [h'.script, h.script]
  time number := by rw [h'.timeAfter, h.time]
  journal := by rw [h'.journal, h.journal]
  sent := by rw [h'.sent, h.sent]

/-- Nor before one. -/
theorem Still.exchanged {s s' s'' : Scene} {q : Request} (h : s.Still s')
    (h' : s'.Exchanged q s'') : s.Exchanged q s'' where
  script := by rw [h'.script, h.script]
  time number := by rw [h'.time, h.timeAfter]
  journal := by rw [h'.journal, h.journal]
  sent := by rw [h'.sent, h.sent]

end Scene

/-! ### Some time -/

/-- **Some time has passed:** a number of outcomes have been taken from the script. -/
def Scene.Later (s s' : Scene) : Prop :=
  ∃ number, s'.script = s.script.drop number ∧ ∀ k, s'.timeAfter k = s.timeAfter (number + k)

namespace Scene

variable {s s' s'' : Scene}

theorem Still.later (h : s.Still s') : s.Later s' := by
  refine ⟨0, h.script, fun k => ?_⟩
  rw [h.timeAfter, Nat.zero_add]

theorem Later.refl (s : Scene) : s.Later s := (Still.refl s).later

theorem Exchanged.later {q : Request} (h : s.Exchanged q s') : s.Later s' := by
  refine ⟨1, ?_, fun k => ?_⟩
  · rw [h.script, List.drop_one]
  · rw [h.time, Nat.add_comm]

theorem Later.trans (h : s.Later s') (h' : s'.Later s'') : s.Later s'' := by
  obtain ⟨number, hscript, htime⟩ := h
  obtain ⟨number', hscript', htime'⟩ := h'
  refine ⟨number + number', ?_, fun k => ?_⟩
  · rw [hscript', hscript, List.drop_drop]
  · rw [htime', htime, Nat.add_assoc]

theorem Later.length_le (h : s.Later s') : s'.script.length ≤ s.script.length := by
  obtain ⟨number, hscript, -⟩ := h
  rw [hscript, List.length_drop]
  exact Nat.sub_le _ _

end Scene

end AqlClient
