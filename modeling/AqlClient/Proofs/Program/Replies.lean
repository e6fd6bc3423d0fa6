import AqlClient.Proofs.Program.Course

/-!
# What comes back from an exchange

`Discipline.hostile` relies on nothing of what an exchange comes to. This module is about the
little that can always be relied on, whoever else is at work meanwhile:

* the history of a scene only grows, and its script is only used up (`Scene.Before`);
* the reply to a request is the outcome that was taken from the script for it, unless the request
  is cancelled (`Scene.Answers`).

`Discipline.scripted` is the discipline of these two. It bears out the bound on the rounds of
loops: a program that fails wherever no exchange comes to anything (`Discipline.dead`) can only end
well if it has used up some of the script (`Program.wp_shorter`).

What holds under two disciplines may be shown separately (`Program.wp_and`). A script that fails in
some ways only makes exchanges fail in these ways, so that under `Discipline.alone` no more has to
be shown than under `Discipline.hostile` (`Program.run_of_hostile`).
-/

namespace AqlClient

variable {α ω : Type}

namespace Scene

variable {s s' s'' : Scene}

/-- No step sends anything. -/
theorem enact_sent (s : Scene) (change : Change) : (s.enact change).sent = s.sent := by
  cases change with
  | cursorMade => exact List.filterMap_append.trans (List.append_nil _)
  | cursor _ _ => exact List.filterMap_append.trans (List.append_nil _)
  | elapsed _ => rfl
  | logged _ _ => rfl
  | sessionMade => rfl
  | transportClosed => rfl
  | noted _ _ => rfl

theorem send_sent (s : Scene) (q : Request) : (s.send q).2.sent = s.sent ++ [q] :=
  List.filterMap_append

/-- **A scene comes before another one:** since then the history has only grown, and the script
has only been used up. -/
structure Before (s s' : Scene) : Prop where
  history : s.history <+: s'.history
  script : s'.script <:+ s.script

namespace Before

theorem refl (s : Scene) : s.Before s := ⟨List.prefix_refl _, List.suffix_refl _⟩

theorem trans (h : s.Before s') (h' : s'.Before s'') : s.Before s'' :=
  ⟨h.history.trans h'.history, h'.script.trans h.script⟩

/-- Nothing is remembered and nothing is taken from the script. -/
theorem of_eq (hhistory : s'.history = s.history) (hscript : s'.script = s.script) :
    s.Before s' :=
  ⟨hhistory ▸ List.prefix_refl _, hscript ▸ List.suffix_refl _⟩

theorem elapse (s : Scene) (ms : Int) : s.Before (s.elapse ms) := of_eq rfl rfl

theorem enact (s : Scene) (change : Change) : s.Before (s.enact change) := by
  cases change with
  | cursorMade => exact ⟨List.prefix_append _ _, List.suffix_refl _⟩
  | cursor ref change => exact ⟨List.prefix_append _ _, List.suffix_refl _⟩
  | elapsed ms => exact of_eq rfl rfl
  | logged level text => exact of_eq rfl rfl
  | sessionMade => exact of_eq rfl rfl
  | transportClosed => exact of_eq rfl rfl
  | noted ref remark => exact of_eq rfl rfl

theorem send (s : Scene) (q : Request) : s.Before (s.send q).2 :=
  ⟨List.prefix_append _ _, List.tail_suffix _⟩

theorem length_le (h : s.Before s') : s'.script.length ≤ s.script.length := h.script.length_le

/-- What has been sent stays sent. -/
theorem sent (h : s.Before s') : ∃ more, s'.sent = s.sent ++ more := by
  obtain ⟨events, hevents⟩ := h.history
  refine ⟨events.filterMap Event.request?, ?_⟩
  unfold Scene.sent
  rw [← hevents, List.filterMap_append]

end Before

/-- **What a request can come back with:** the reply that the script has for it, or its
cancellation. -/
def Answers (s : Scene) (q : Request) (reply : Except Failure Response) : Prop :=
  reply = (s.send q).1.playback.reply q ∨ reply = .error .cancelled

/-- Every exchange of a script that fails does so in one of some ways. -/
def FailsBy (s : Scene) (fails : Failure → Prop) : Prop :=
  ∀ o ∈ Outcome.scriptEnd :: s.script, ∀ q e, o.playback.reply q = .error e → fails e

theorem FailsBy.before {fails : Failure → Prop} (h : s.FailsBy fails) (hs : s.Before s') :
    s'.FailsBy fails := by
  intro o ho
  rw [List.mem_cons] at ho
  exact h o (List.mem_cons.2 (ho.imp_right fun hmem => hs.script.subset hmem))

theorem FailsBy.reply {fails : Failure → Prop} (h : s.FailsBy fails) (q : Request) {e : Failure}
    (he : (s.send q).1.playback.reply q = .error e) : fails e := by
  refine h _ ?_ q e he
  show s.script.headD .scriptEnd ∈ _
  cases s.script with
  | nil => exact List.mem_cons_self
  | cons o rest => exact List.mem_cons_of_mem _ List.mem_cons_self

/-- Where every exchange of the script gets a response, only the end of it fails. -/
theorem failsBy_of_responses
    (h : ∀ o ∈ s.script, ∀ q, ∃ response, o.playback.reply q = .ok response) :
    s.FailsBy fun e => e.isTransport = true := by
  intro o ho q e he
  obtain rfl | ho := List.mem_cons.1 ho
  · cases he
    rfl
  · obtain ⟨response, hresponse⟩ := h o ho q
    rw [hresponse] at he
    cases he

/-- Only a script that is not over has responses. -/
theorem Answers.shorter {q : Request} {response : Response} (h : s.Answers q (.ok response)) :
    (s.send q).2.script.length < s.script.length := by
  show s.script.tail.length < s.script.length
  cases hs : s.script with
  | nil =>
    obtain hreply | hcancelled := h
    · rw [show (s.send q).1 = Outcome.scriptEnd by unfold Scene.send; rw [hs]; rfl] at hreply
      cases hreply
    · cases hcancelled
  | cons o rest => exact Nat.lt_succ_self _

end Scene

namespace Discipline

/-- Nothing is known of an exchange but that its reply comes from the script. -/
def scripted : Discipline Unit where
  may _ _ _ := True
  back _ s q _ reply s' := (s.send q).2.Before s' ∧ s.Answers q reply

/-- Under the discipline what comes back from an exchange comes from the script. -/
def Honest (D : Discipline ω) : Prop :=
  ∀ ⦃w s q w' reply s'⦄, D.back w s q w' reply s' → scripted.back () s q () reply s'

theorem honest_alone : (alone : Discipline ω).Honest := by
  intro w s q w' reply s' h
  obtain ⟨rfl, rfl⟩ := alone_back h
  exact ⟨.elapse _ _, .inl (congrArg Prod.fst h.2).symm⟩

/-- No exchange comes to anything. -/
def dead : Discipline Unit where
  may _ _ _ := True
  back _ _ _ _ reply _ := ∃ e, reply = .error e

end Discipline

namespace Program

variable {D : Discipline ω} {E : Discipline Unit} {p : Program α} {w : ω} {s s₀ : Scene}

/-- What holds under two disciplines, the second of which relies on less and forbids nothing,
holds together under the first. -/
theorem wp_and {Q : Except Failure α → ω → Scene → Prop} {R : Except Failure α → Scene → Prop}
    (hback : ∀ w s q w' reply s', D.back w s q w' reply s' → E.back () s q () reply s')
    (hQ : p.wp D Q w s) (hR : p.wp E (fun r _ s => R r s) () s) :
    p.wp D (fun r w s => Q r w s ∧ R r s) w s := by
  induction p generalizing w s with
  | done r => exact ⟨hQ, hR⟩
  | look next ih => exact ih _ hQ hR
  | act change next ih => exact ih hQ hR
  | exchange q next ih =>
    refine ⟨hQ.1, fun w' reply s' h => ?_⟩
    exact ih reply (hQ.2 w' reply s' h) (hR.2 () reply s' (hback _ _ _ _ _ _ h))

/-- What holds of a program on its own under two views holds together. -/
theorem wp_alone_and {Q : Except Failure α → ω → Scene → Prop} {R : Except Failure α → Scene → Prop}
    (hQ : p.wp .alone Q w s) (hR : p.wp (.alone : Discipline Unit) (fun r _ s => R r s) () s) :
    p.wp .alone (fun r w s => Q r w s ∧ R r s) w s :=
  wp_and (E := .alone) (fun _ _ _ _ _ _ hback => ⟨rfl, hback.2⟩) hQ hR

/-- A program ends behind the scene in which it starts. -/
theorem wp_before (p : Program α) (h : s₀.Before s) :
    p.wp .scripted (fun _ _ s' => s₀.Before s') () s := by
  induction p generalizing s with
  | done r => exact h
  | look next ih => exact ih _ h
  | act change next ih => exact ih (h.trans (.enact s change))
  | exchange q next ih =>
    refine ⟨trivial, fun w' reply s' hback => ?_⟩
    exact ih reply ((h.trans (.send s q)).trans hback.1)

/-- **A program that fails unless an exchange comes to something** uses up some of the script if it
does not fail. -/
theorem wp_shorter (h : p.wp .dead (fun r _ _ => ∃ e, r = .error e) () s) (hs : s₀.Before s) :
    p.wp .scripted (fun r _ s' => ∀ a, r = .ok a → s'.script.length < s₀.script.length) () s := by
  induction p generalizing s with
  | done r =>
    obtain ⟨e, rfl⟩ := h
    exact fun a ha => nomatch ha
  | look next ih => exact ih _ h hs
  | act change next ih => exact ih h (hs.trans (.enact s change))
  | exchange q next ih =>
    refine ⟨trivial, fun w' reply s' hback => ?_⟩
    have hbefore : s₀.Before s' := (hs.trans (.send s q)).trans hback.1
    cases reply with
    | error e => exact ih (.error e) (h.2 () (.error e) s' ⟨e, rfl⟩) hbefore
    | ok response =>
      -- this exchange came to something, and from here on the script cannot grow back
      refine wp_mono (wp_before (next (.ok response)) (.refl s')) fun r _ s'' h'' a _ => ?_
      calc s''.script.length ≤ s'.script.length := h''.length_le
        _ ≤ (s.send q).2.script.length := hback.1.length_le
        _ < s.script.length := hback.2.shorter
        _ ≤ s₀.script.length := hs.length_le

/-- A program that is carried out on its own ends behind the scene in which it starts. -/
theorem before_run (p : Program α) (s : Scene) : s.Before (p.run s).2 := by
  induction p generalizing s with
  | done r => exact .refl s
  | look next ih => exact ih _ s
  | act change next ih => exact (Scene.Before.enact s change).trans (ih _)
  | exchange q next ih =>
    exact ((Scene.Before.send s q).trans (.elapse _ (s.send q).1.elapsed)).trans (ih _ _)

theorem before_of_run {r : Except Failure α} {s' : Scene} (h : p.run s = (r, s')) :
    s.Before s' := by
  have hbefore := p.before_run s
  rwa [h] at hbefore

theorem cursorCount_le_run (p : Program α) (s : Scene) :
    s.cursorCount ≤ (p.run s).2.cursorCount := by
  induction p generalizing s with
  | done r => exact Nat.le_refl _
  | look next ih => exact ih _ s
  | act change next ih => exact Nat.le_trans (s.cursorCount_le_enact change) (ih _)
  | exchange q next ih => exact ih _ (s.play q).2

/-- A program that keeps away from a cursor leaves its state as it is, and sends nothing that
concerns it. -/
theorem Avoids.run {p : Program α} {ref : Nat} {mine : Request → Bool}
    (h : p.Avoids ref (Change.touches ref) fun q => mine q = true) {s : Scene}
    (hplaced : ref < s.cursorCount) :
    (p.run s).2.cursors ref = s.cursors ref ∧
      (p.run s).2.sent.filter mine = s.sent.filter mine := by
  induction p generalizing s with
  | done r => exact ⟨rfl, rfl⟩
  | look next ih => exact ih s (h s hplaced) hplaced
  | act change next ih =>
    obtain ⟨hstate, hsent⟩ := ih h.2 (Nat.lt_of_lt_of_le hplaced (s.cursorCount_le_enact change))
    exact ⟨hstate.trans (Scene.enact_cursors_of_not_touches hplaced h.1),
      hsent.trans (by rw [Scene.enact_sent])⟩
  | exchange q next ih =>
    obtain ⟨hstate, hsent⟩ := ih (s.play q).1 (h.2 _) (s := (s.play q).2) hplaced
    refine ⟨hstate, hsent.trans ?_⟩
    have hplayed : (s.play q).2.sent = s.sent ++ [q] := s.send_sent q
    rw [hplayed, List.filter_append, List.filter_cons_of_neg h.1, List.filter_nil, List.append_nil]

/-- What comes later is later still. -/
theorem wp_ends_before {I : ω → Scene → Prop} {F : Failure → ω → Scene → Prop}
    {w : ω} (h : p.wp .alone (Ends I F) w s) (hs : s₀.Before s) :
    p.wp .alone (Ends (fun w s => I w s ∧ s₀.Before s) F) w s := by
  rw [wp_alone] at h ⊢
  have hafter := hs.trans (p.before_run s)
  cases hr : (p.run s).1 with
  | ok b =>
    rw [hr] at h
    exact ⟨h, hafter⟩
  | error e =>
    rw [hr] at h
    exact h

/-! ### Scripts that fail in some ways only -/

/-- What a program comes to whatever happens at its exchanges, if these fail in some ways only, it
comes to with a script that makes them fail in these ways only. -/
theorem run_of_hostile {fails : Failure → Prop} {Q : Except Failure α → Prop}
    (hs : s.FailsBy fails)
    (h : p.wp (.hostile (fun _ => True) fails) (fun r _ _ => Q r) () s) : Q (p.run s).1 := by
  induction p generalizing s with
  | done r => exact h
  | look next ih => exact ih _ hs h
  | act change next ih => exact ih (hs.before (.enact s change)) h
  | exchange q next ih =>
    refine ih _ (hs.before ((Scene.Before.send s q).trans (.elapse _ _))) ?_
    exact h.2 () _ _ fun e he => hs.reply q he

end Program

end AqlClient
