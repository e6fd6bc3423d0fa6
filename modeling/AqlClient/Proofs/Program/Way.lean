import AqlClient.Proofs.Program.Replies

/-!
# Who has sent what

The history of a scene says what has been sent, but not by whom. Where a program carries out others
in between, as it does with a function that is handed to it, this is what matters about a request.

A way from one scene to another (`Scene.Way`) puts the steps of a program and the runs of the others
one after the other. It tells the requests of the program from those of the others, and together
these are all that have been sent (`Scene.Way.sent`).
-/

namespace AqlClient

variable {others : (γ : Type) → Program γ → Prop} {own foreign : List Request} {s₀ s : Scene}

/-- **The way from a scene to another one:** a program takes its steps and sends its own requests,
and others are carried out in between. -/
inductive Scene.Way (others : (γ : Type) → Program γ → Prop) (s₀ : Scene) :
    List Request → List Request → Scene → Prop
  | start : Way others s₀ [] [] s₀
  | act {own foreign : List Request} {s : Scene} (change : Change) :
      Way others s₀ own foreign s → Way others s₀ own foreign (s.enact change)
  | exchange {own foreign : List Request} {s : Scene} (q : Request) :
      Way others s₀ own foreign s → Way others s₀ (own ++ [q]) foreign (s.play q).2
  | other {own foreign sent : List Request} {s : Scene} {γ : Type} {p : Program γ} :
      others γ p → (p.run s).2.sent = s.sent ++ sent → Way others s₀ own foreign s →
      Way others s₀ own (foreign ++ sent) (p.run s).2

namespace Scene

namespace Way

/-- **All that has been sent on the way** is the program's own, or has been sent by the others. -/
theorem sent (h : s₀.Way others own foreign s) :
    ∃ since, s.sent = s₀.sent ++ since ∧ since.Perm (own ++ foreign) := by
  induction h with
  | start => exact ⟨[], (List.append_nil _).symm, .refl _⟩
  | act change _ ih =>
    rw [enact_sent]
    exact ih
  | @exchange own foreign s q _ ih =>
    obtain ⟨since, hsince, hperm⟩ := ih
    have hplayed : (s.play q).2.sent = s.sent ++ [q] := s.send_sent q
    refine ⟨since ++ [q], by rw [hplayed, hsince, List.append_assoc], ?_⟩
    calc (since ++ [q]).Perm (own ++ foreign ++ [q]) := hperm.append_right [q]
      _ = own ++ (foreign ++ [q]) := List.append_assoc _ _ _
      _ |>.Perm (own ++ ([q] ++ foreign)) := List.perm_append_comm.append_left own
      _ = own ++ [q] ++ foreign := (List.append_assoc _ _ _).symm
  | other _ hsent _ ih =>
    obtain ⟨since, hsince, hperm⟩ := ih
    refine ⟨since ++ _, by rw [hsent, hsince, List.append_assoc], ?_⟩
    rw [← List.append_assoc]
    exact hperm.append_right _

/-- The cursors keep their places on the way. -/
theorem placed {ref : Nat} (h : s₀.Way others own foreign s) (hplaced : ref < s₀.cursorCount) :
    ref < s.cursorCount := by
  induction h with
  | start => exact hplaced
  | act change _ ih => exact Nat.lt_of_lt_of_le ih (cursorCount_le_enact _ change)
  | exchange q _ ih => exact ih
  | @other _ _ _ s _ p _ _ _ ih => exact Nat.lt_of_lt_of_le ih (p.cursorCount_le_run s)

/-- What others do not send is not among their requests. -/
theorem foreign_avoids {ref : Nat} {mine : Request → Bool}
    (hothers : ∀ γ (p : Program γ), others γ p →
      p.Avoids ref (Change.touches ref) fun q => mine q = true)
    (hplaced : ref < s₀.cursorCount) (h : s₀.Way others own foreign s) :
    foreign.filter mine = [] := by
  induction h with
  | start => rfl
  | act change _ ih => exact ih
  | exchange q _ ih => exact ih
  | other hp hsent hway ih =>
    have hrun := ((hothers _ _ hp).run (hway.placed hplaced)).2
    rw [hsent, List.filter_append, List.append_right_eq_self] at hrun
    rw [List.filter_append, ih, hrun, List.append_nil]

end Way

end Scene

end AqlClient
