import AqlClient.Program.Tasks
import AqlClient.Proofs.Program.Replies
import Mathlib.Logic.Relation

/-!
# Tasks that share a scene

What holds of a pool of tasks at any time, whatever tasks are started, in whatever order their
exchanges come to an end, and whichever of them are cancelled (`TaskPool.Step`,
`TaskPool.Reaches`). Any outcome of the script may be behind a gate, so that any exchange is a
place where the others may get their turn, for as long as one likes.

The tasks are held together by terms (`Sharing`): some requests are exclusive, so that at most
one of them may be on its way, and the scenes that a task leaves behind whenever it waits have
to be fit, with a flag that says whether an exclusive request is on its way. The terms are a
discipline for programs (`Sharing.discipline`), whose view is whether the exclusive request of
*another* task is on its way. Under `Sharing.faithful` a task knows besides that the reply it gets
is the one that the script had for it. Both are disciplines that a pool provides
(`Sharing.Provides`).

A task may owe something beyond the terms when it ends (`Contract`). A program that obeys the terms
can be joined to the pool: `Sharing.agreed_run` takes a task to its next exchange or to its end,
`Sharing.agreed_resume` brings a waiting one back, and `Sharing.agreed_step` puts them together for
the steps of a pool. Two things follow for the pools that can be reached: the terms are kept
(`Sharing.orderly_of_reaches`), and a task has done what it owes once it has ended, whatever the
others have done meanwhile (`Sharing.ended_of_leads`).
-/

namespace AqlClient

variable {α β : Type}

/-- **The pools that can be reached** from a scene by starting tasks of some kind, delivering
outcomes in any order, opening gates, cancelling tasks, and carrying out programs of the same
kind on their own. -/
inductive TaskPool.Reaches (joins : (γ : Type) → Program γ → Prop) (s : Scene) :
    TaskPool β → Prop
  | start : Reaches joins s (TaskPool.start s)
  | spawn {p : TaskPool β} {program : Program β} :
      Reaches joins s p → joins β program → Reaches joins s (p.spawn program).2
  | deliver {p : TaskPool β} {t : WaitingTask β} {before after : List (WaitingTask β)} :
      Reaches joins s p → p.waiting = before ++ t :: after →
        Reaches joins s (TaskPool.resume { p with waiting := before ++ after } t)
  | openGate {p : TaskPool β} (gate : String) :
      Reaches joins s p → Reaches joins s (p.openGate gate)
  | cancel {p : TaskPool β} (number : Nat) :
      Reaches joins s p → Reaches joins s (p.cancel number)
  | alone {p : TaskPool β} {γ : Type} {program : Program γ} :
      Reaches joins s p → joins γ program → Reaches joins s (p.alone program).2

/-- **A step of a pool:** a task of some kind is started or cancelled, an outcome is delivered, a
gate is opened, or a program of the same kind is carried out on its own. -/
inductive TaskPool.Step (joins : (γ : Type) → Program γ → Prop) : TaskPool β → TaskPool β → Prop
  | spawn {p : TaskPool β} {program : Program β} :
      joins β program → Step joins p (p.spawn program).2
  | deliver {p : TaskPool β} {t : WaitingTask β} {before after : List (WaitingTask β)} :
      p.waiting = before ++ t :: after →
        Step joins p (TaskPool.resume { p with waiting := before ++ after } t)
  | openGate {p : TaskPool β} (gate : String) : Step joins p (p.openGate gate)
  | cancel {p : TaskPool β} (number : Nat) : Step joins p (p.cancel number)
  | alone {p : TaskPool β} {γ : Type} {program : Program γ} :
      joins γ program → Step joins p (p.alone program).2

/-- What may become of a pool. -/
def TaskPool.Leads (joins : (γ : Type) → Program γ → Prop) : TaskPool β → TaskPool β → Prop :=
  Relation.ReflTransGen (TaskPool.Step joins)

/-- The pools that can be reached are those that the pool without tasks leads to. -/
theorem TaskPool.Reaches.leads {joins : (γ : Type) → Program γ → Prop} {s : Scene}
    {p : TaskPool β} (h : p.Reaches joins s) : (TaskPool.start s).Leads joins p := by
  induction h with
  | start => exact .refl
  | spawn _ hprogram ih => exact ih.tail (.spawn hprogram)
  | deliver _ hwaiting ih => exact ih.tail (.deliver hwaiting)
  | openGate gate _ ih => exact ih.tail (.openGate gate)
  | cancel number _ ih => exact ih.tail (.cancel number)
  | alone _ hprogram ih => exact ih.tail (.alone hprogram)

/-- What a pool leads to that can be reached can be reached as well. -/
theorem TaskPool.Reaches.onward {joins : (γ : Type) → Program γ → Prop} {s : Scene}
    {p p' : TaskPool β} (h : p.Reaches joins s) (hlead : p.Leads joins p') :
    p'.Reaches joins s := by
  induction hlead with
  | refl => exact h
  | tail _ hstep ih =>
    cases hstep with
    | spawn hprogram => exact .spawn ih hprogram
    | deliver hwaiting => exact .deliver ih hwaiting
    | openGate gate => exact .openGate gate ih
    | cancel number => exact .cancel number ih
    | alone hprogram => exact .alone ih hprogram

/-! ### What is left behind -/

namespace TaskPool

variable {s : Scene}

/-- A task runs from a scene to a later one. -/
theorem before_run (number : Nat) (program : Program β) {p : TaskPool β} (h : s.Before p.scene) :
    s.Before (run number program p).scene := by
  induction program generalizing p with
  | done r => exact h
  | look next ih => exact ih _ h
  | act change next ih => exact ih (h.trans (.enact _ change))
  | exchange q next ih =>
    have hsent : s.Before (p.scene.send q).2 := h.trans (.send p.scene q)
    unfold run
    dsimp only
    split
    case isTrue => exact hsent
    case isFalse => exact ih _ (hsent.trans (.elapse _ _))

theorem before_resume {p : TaskPool β} (t : WaitingTask β) (h : s.Before p.scene) :
    s.Before (p.resume t).scene :=
  before_run _ _ (h.trans (.elapse p.scene t.outcome.elapsed))

theorem before_resumeAll (released : List (WaitingTask β)) {p : TaskPool β}
    (h : s.Before p.scene) : s.Before (released.foldl resume p).scene := by
  induction released generalizing p with
  | nil => exact h
  | cons t rest ih => exact ih (before_resume t h)

/-- **What a pool leads to comes later:** its history is continued. -/
theorem Leads.before {joins : (γ : Type) → Program γ → Prop} {p p' : TaskPool β}
    (h : p.Leads joins p') : p.scene.Before p'.scene := by
  induction h with
  | refl => exact .refl _
  | tail _ hstep ih =>
    cases hstep with
    | spawn hprogram => exact before_run _ _ ih
    | deliver hwaiting => exact before_resume _ ih
    | openGate gate => exact before_resumeAll _ ih
    | cancel number =>
      unfold cancel
      split
      · exact ih
      · exact before_run _ _ ih
    | alone hprogram => exact ih.trans (Program.before_run _ _)

end TaskPool

/-! ### Terms -/

/-- **The terms on which tasks share a scene:** which requests are exclusive, and which scenes are
fit, given whether an exclusive request is on its way. -/
structure Sharing where
  exclusive : Request → Bool
  fit : Bool → Scene → Prop
  /-- Time may pass. -/
  elapse : ∀ {w s} ms, fit w s → fit w (s.elapse ms)

namespace Sharing

variable (S : Sharing)

/-- What the task that sent a request finds when it comes back. -/
def Returns (q : Request) (w : Bool) (s : Scene) : Prop :=
  if S.exclusive q = true then w = false ∧ S.fit true s else S.fit w s

/-- The terms as a discipline. A task leaves behind what it may find itself. -/
def discipline : Discipline Bool where
  may w s q := S.Returns q w (s.send q).2
  back _ _ q w' _ s' := S.Returns q w' s'

/-- A program obeys the terms and leaves a fit scene behind. -/
def Obeyed (p : Program α) (w : Bool) (s : Scene) : Prop :=
  p.wp S.discipline (fun _ w s => S.fit w s) w s

/-- A waiting task that obeys the terms whatever it finds when it comes back. -/
def Patient (t : WaitingTask β) : Prop :=
  ∀ w reply s, S.Returns t.request w s → S.Obeyed (t.next reply) w s

/-- The number of tasks whose exclusive request is on its way. -/
def exclusives (waiting : List (WaitingTask β)) : Nat :=
  waiting.countP fun t => S.exclusive t.request

/-- **The terms are kept** by some waiting tasks in a scene. -/
structure Orderly (waiting : List (WaitingTask β)) (w : Bool) (s : Scene) : Prop where
  scene : S.fit w s
  single : S.exclusives waiting = w.toNat
  patient : ∀ t ∈ waiting, S.Patient t

variable {S} in
/-- Who waits for an exclusive request is the one that the view tells of. -/
theorem Orderly.of_exclusive {waiting : List (WaitingTask β)} {w : Bool} {s : Scene}
    (h : S.Orderly waiting w s) {t : WaitingTask β} (ht : t ∈ waiting)
    (hexclusive : S.exclusive t.request = true) : w = true := by
  have hpositive : 0 < S.exclusives waiting := List.countP_pos_iff.2 ⟨t, ht, hexclusive⟩
  rw [h.single] at hpositive
  cases w with
  | true => rfl
  | false => exact absurd hpositive (Nat.lt_irrefl 0)

/-- The terms as a discipline under which a task also knows that what comes back for its request is
what the script had for it. -/
def faithful : Discipline Bool where
  may := S.discipline.may
  back w s q w' reply s' :=
    S.discipline.back w s q w' reply s' ∧ (s.send q).2.Before s' ∧ s.Answers q reply

/-- **A discipline that a pool provides:** it asks of a program no less than the terms, and does not
rely on more than the terms and the script say. -/
structure Provides (D : Discipline Bool) : Prop where
  may : ∀ ⦃w s q⦄, D.may w s q → S.Returns q w (s.send q).2
  back : ∀ ⦃w s q w' reply s'⦄, S.Returns q w' s' → (s.send q).2.Before s' →
    s.Answers q reply → D.back w s q w' reply s'

theorem provides_discipline : S.Provides S.discipline where
  may _ _ _ h := h
  back _ _ _ _ _ _ h _ _ := h

theorem provides_faithful : S.Provides S.faithful where
  may _ _ _ h := h
  back _ _ _ _ _ _ h hbefore hanswers := ⟨h, hbefore, hanswers⟩

theorem honest_faithful : S.faithful.Honest := fun _ _ _ _ _ _ h => h.2

end Sharing

/-! ### Contracts -/

/-- **What the tasks of a pool owe when they end:** something about their result and the scene that
they leave behind. It concerns the first few tasks only. -/
structure Contract (β : Type) where
  owes : Nat → Except Failure β → Scene → Prop
  count : Nat
  free : ∀ n r s, count ≤ n → owes n r s

namespace Contract

/-- Nobody owes anything. -/
def none : Contract β where
  owes _ _ _ := True
  count := 0
  free _ _ _ _ := trivial

/-- One task owes something. -/
def single (number : Nat) (Q : Except Failure β → Scene → Prop) : Contract β where
  owes n r s := n = number → Q r s
  count := number + 1
  free n _ _ hn he := absurd hn (by omega)

end Contract

namespace Sharing

variable (S : Sharing) (D : Discipline Bool)

/-- How a program ends that obeys the terms and owes something. -/
def Fulfils (Q : Except Failure α → Scene → Prop) (r : Except Failure α) (w : Bool)
    (s : Scene) : Prop :=
  S.fit w s ∧ Q r s

/-- A waiting task ends as it should whatever comes back for its request. -/
def Bound (K : Contract β) (t : WaitingTask β) (s : Scene) : Prop :=
  ∃ w₀ s₀, t.outcome = (s₀.send t.request).1 ∧ (s₀.send t.request).2.Before s ∧
    ∀ w reply s', D.back w₀ s₀ t.request w reply s' →
      (t.next reply).wp D (S.Fulfils (K.owes t.number)) w s'

/-- **The tasks of a pool keep a contract,** and so do some others that are about to go on. -/
structure Agreed (K : Contract β) (others : List (WaitingTask β)) (w : Bool)
    (p : TaskPool β) : Prop where
  count : K.count ≤ p.spawned
  single : S.exclusives (others ++ p.waiting) = w.toNat
  bound : ∀ t ∈ others ++ p.waiting, t.number < p.spawned ∧ S.Bound D K t p.scene
  ended : ∀ n r, (n, r) ∈ p.finished → n < p.spawned ∧ ∃ s, s.Before p.scene ∧ K.owes n r s

variable {S D} {K : Contract β} {w : Bool} {s : Scene} {waiting others : List (WaitingTask β)}
  {p p' : TaskPool β}

theorem exclusives_cons (t : WaitingTask β) (others : List (WaitingTask β)) :
    S.exclusives (t :: others) =
      S.exclusives others + if S.exclusive t.request = true then 1 else 0 :=
  List.countP_cons

theorem Returns.elapse {q : Request} (h : S.Returns q w s) (ms : Int) :
    S.Returns q w (s.elapse ms) := by
  unfold Returns at *
  split
  case isTrue hq =>
    rw [if_pos hq] at h
    exact ⟨h.1, S.elapse ms h.2⟩
  case isFalse hq =>
    rw [if_neg hq] at h
    exact S.elapse ms h

namespace Agreed

/-- The scene may change in any way that keeps what has been remembered. -/
theorem later (h : S.Agreed D K others w p) (hs : p.scene.Before s) :
    S.Agreed D K others w { p with scene := s } where
  count := h.count
  single := h.single
  bound t ht := by
    obtain ⟨hnumber, w₀, s₀, houtcome, hbefore, hnext⟩ := h.bound t ht
    exact ⟨hnumber, w₀, s₀, houtcome, hbefore.trans hs, hnext⟩
  ended n r hr := by
    obtain ⟨hnumber, s', hbefore, howes⟩ := h.ended n r hr
    exact ⟨hnumber, s', hbefore.trans hs, howes⟩

/-- The order in which tasks wait does not matter, nor which of them are about to go on. -/
theorem perm (h : S.Agreed D K others w p) {others' : List (WaitingTask β)}
    (hp' : p' = { p with waiting := p'.waiting, openGates := p'.openGates })
    (hperm : (others ++ p.waiting).Perm (others' ++ p'.waiting)) :
    S.Agreed D K others' w p' := by
  rw [hp']
  exact
    { count := h.count
      single := by
        rw [← h.single]
        exact (hperm.countP_eq _).symm
      bound := fun t ht => h.bound t (hperm.mem_iff.2 ht)
      ended := h.ended }

/-- A task that waits joins the others. -/
theorem join (h : S.Agreed D K others w p) {t : WaitingTask β} (hnumber : t.number < p.spawned)
    (ht : S.Bound D K t p.scene) (hreturns : S.Returns t.request w p.scene) :
    ∃ w', S.fit w' p.scene ∧
      S.Agreed D K others w' { p with waiting := p.waiting ++ [t] } := by
  have hcount : S.exclusives (others ++ (p.waiting ++ [t])) =
      w.toNat + if S.exclusive t.request = true then 1 else 0 := by
    rw [← h.single, ← exclusives_cons]
    refine List.Perm.countP_eq _ ?_
    rw [← List.append_assoc]
    exact List.perm_append_singleton t _
  have hbound : ∀ u ∈ others ++ (p.waiting ++ [t]),
      u.number < p.spawned ∧ S.Bound D K u p.scene := by
    intro u hu
    rw [← List.append_assoc, List.mem_append, List.mem_singleton] at hu
    obtain hu | rfl := hu
    · exact h.bound u hu
    · exact ⟨hnumber, ht⟩
  unfold Returns at hreturns
  -- the view of the pool changes only if the request of the new one is exclusive
  by_cases hq : S.exclusive t.request = true
  · rw [if_pos hq] at hreturns hcount
    obtain ⟨rfl, hfit⟩ := hreturns
    exact ⟨true, hfit, h.count, hcount, hbound, h.ended⟩
  · rw [if_neg hq] at hreturns hcount
    exact ⟨w, hreturns, h.count, hcount, hbound, h.ended⟩

end Agreed

/-! ### The course of a pool -/

variable (hD : S.Provides D)

include hD

/-- **A task runs until it has to wait or ends,** while the others wait. Some of the others may
be about to go on. -/
theorem agreed_run (others : List (WaitingTask β)) {number : Nat} {program : Program β}
    (hnumber : number < p.spawned) (h : S.Agreed D K others w p)
    (hprogram : program.wp D (S.Fulfils (K.owes number)) w p.scene) :
    ∃ w', S.fit w' (TaskPool.run number program p).scene ∧
      S.Agreed D K others w' (TaskPool.run number program p) := by
  induction program generalizing p w with
  | done r =>
    refine ⟨w, hprogram.1, h.count, h.single, h.bound, fun n r' hr => ?_⟩
    change (n, r') ∈ p.finished ++ [(number, r)] at hr
    rw [List.mem_append, List.mem_singleton] at hr
    obtain hr | hr := hr
    · exact h.ended n r' hr
    · cases hr
      exact ⟨hnumber, p.scene, .refl _, hprogram.2⟩
  | look next ih => exact ih _ hnumber h hprogram
  | act change next ih => exact ih hnumber (h.later (.enact _ change)) hprogram
  | exchange q next ih =>
    unfold TaskPool.run
    split
    next o scene hsend =>
    obtain ⟨ho, hscene⟩ : (p.scene.send q).1 = o ∧ (p.scene.send q).2 = scene := by
      rw [hsend]
      exact ⟨rfl, rfl⟩
    have hleft : S.Returns q w scene := hscene ▸ hD.may hprogram.1
    have hsent : p.scene.Before scene := hscene ▸ .send p.scene q
    split
    case isTrue =>
      refine (h.later hsent).join (t := ⟨number, q, o, next⟩) hnumber ?_ hleft
      exact ⟨w, p.scene, ho.symm, hscene ▸ .refl _, hprogram.2⟩
    case isFalse =>
      -- the reply is there at once, so that nobody else had a turn
      have hback : D.back w p.scene q w (o.playback.reply q) (scene.elapse o.elapsed) :=
        hD.back (hleft.elapse o.elapsed) (hscene ▸ .elapse _ _) (.inl (by rw [ho]))
      exact ih (o.playback.reply q) (p := { p with scene := scene.elapse o.elapsed }) hnumber
        (h.later (hsent.trans (.elapse _ _))) (hprogram.2 w _ _ hback)

/-- **A waiting task goes on** with a reply that its request can get, in a scene that has changed
no more than the terms admit. -/
theorem agreed_resume (others : List (WaitingTask β)) {t : WaitingTask β}
    {reply : Except Failure Response} (hfit : S.fit w p.scene)
    (h : S.Agreed D K (t :: others) w p) (hs : p.scene.Before s)
    (hscene : ∀ w, S.fit w p.scene → S.fit w s)
    (hreply : reply = t.outcome.playback.reply t.request ∨ reply = .error .cancelled) :
    ∃ w', S.fit w' (TaskPool.run t.number (t.next reply) { p with scene := s }).scene ∧
      S.Agreed D K others w' (TaskPool.run t.number (t.next reply) { p with scene := s }) := by
  obtain ⟨hnumber, w₀, s₀, houtcome, hbefore, hnext⟩ := h.bound t List.mem_cons_self
  have hanswers : s₀.Answers t.request reply := by
    unfold Scene.Answers
    rw [← houtcome]
    exact hreply
  have hothers : ∀ {v : Bool}, S.exclusives (others ++ p.waiting) = v.toNat →
      S.Agreed D K others v { p with scene := s } := by
    intro v hv
    exact Agreed.later ⟨h.count, hv, fun u hu => h.bound u (List.mem_cons_of_mem t hu), h.ended⟩ hs
  have hcount : S.exclusives (others ++ p.waiting) +
      (if S.exclusive t.request = true then 1 else 0) = w.toNat := by
    rw [← exclusives_cons]
    exact h.single
  by_cases hq : S.exclusive t.request = true
  · -- it was the one with the exclusive request, so that none of the others is
    rw [if_pos hq] at hcount
    obtain rfl : w = true := by
      cases w with
      | true => rfl
      | false => exact absurd hcount (Nat.succ_ne_zero _)
    have hreturns : S.Returns t.request false s := by
      unfold Returns
      rw [if_pos hq]
      exact ⟨rfl, hscene true hfit⟩
    exact agreed_run hD others hnumber (hothers (v := false) (Nat.succ.inj hcount))
      (hnext false reply s (hD.back hreturns (hbefore.trans hs) hanswers))
  · rw [if_neg hq, Nat.add_zero] at hcount
    have hreturns : S.Returns t.request w s := by
      unfold Returns
      rw [if_neg hq]
      exact hscene w hfit
    exact agreed_run hD others hnumber (hothers hcount)
      (hnext w reply s (hD.back hreturns (hbefore.trans hs) hanswers))

/-- Several tasks go on, one after the other. -/
theorem agreed_resumeAll (released : List (WaitingTask β)) (hfit : S.fit w p.scene)
    (h : S.Agreed D K released w p) :
    ∃ w', S.fit w' (released.foldl TaskPool.resume p).scene ∧
      S.Agreed D K [] w' (released.foldl TaskPool.resume p) := by
  induction released generalizing p w with
  | nil => exact ⟨w, hfit, h⟩
  | cons t rest ih =>
    obtain ⟨w', hfit', h'⟩ := agreed_resume hD rest hfit h (.elapse _ t.outcome.elapsed)
      (fun w => S.elapse (w := w) t.outcome.elapsed) (.inl rfl)
    exact ih hfit' h'

/-- A program that obeys the terms leaves a fit scene behind when it is carried out on its
own. -/
theorem fit_run {program : Program α} (h : program.wp D (fun _ w s => S.fit w s) w s) :
    S.fit w (program.run s).2 := by
  induction program generalizing s with
  | done r => exact h
  | look next ih => exact ih _ h
  | act change next ih => exact ih h
  | exchange q next ih =>
    have hleft : S.Returns q w (s.send q).2 := hD.may h.1
    exact ih _ (h.2 w _ _ (hD.back (hleft.elapse (s.send q).1.elapsed) (.elapse _ _) (.inl rfl)))

omit hD in
/-- Looking for a waiting task finds the one that is then taken out. -/
theorem perm_of_find {number : Nat} {t : WaitingTask β}
    (h : waiting.find? (fun u => u.number == number) = some t) :
    t.number = number ∧
      waiting.Perm (t :: waiting.eraseP fun u => u.number == number) := by
  obtain ⟨hnumber, before, after, hwaiting, hbefore⟩ := List.find?_eq_some_iff_append.1 h
  have hothers : ∀ u ∈ before, ¬ (u.number == number) = true := by
    intro u hu
    simpa using hbefore u hu
  have hrest : waiting.eraseP (fun u => u.number == number) = before ++ after := by
    rw [hwaiting, List.eraseP_append_right _ hothers, List.eraseP_cons, hnumber, cond_true]
  refine ⟨beq_iff_eq.1 hnumber, ?_⟩
  rw [hrest, hwaiting]
  exact List.perm_middle

section Steps

variable {joins : (γ : Type) → Program γ → Prop}
  (hjoins : ∀ γ program, joins γ program → ∀ w s, S.fit w s →
    program.wp D (fun _ w s => S.fit w s) w s)

include hjoins

/-- **A step of a pool keeps the terms and the contract,** if those who join obey the terms wherever
they find a fit scene. They owe nothing, since the contract concerns earlier tasks. -/
theorem agreed_step (hfit : S.fit w p.scene) (h : S.Agreed D K [] w p) (hp : p.Step joins p') :
    ∃ w', S.fit w' p'.scene ∧ S.Agreed D K [] w' p' := by
  cases hp with
  | @spawn program hprogram =>
    have hstarted : S.Agreed D K [] w { p with spawned := p.spawned + 1 } :=
      { count := Nat.le_succ_of_le h.count
        single := h.single
        bound := fun t ht => ⟨Nat.lt_succ_of_lt (h.bound t ht).1, (h.bound t ht).2⟩
        ended := fun n r hr => ⟨Nat.lt_succ_of_lt (h.ended n r hr).1, (h.ended n r hr).2⟩ }
    refine agreed_run hD [] (Nat.lt_succ_self p.spawned) hstarted ?_
    exact Program.wp_mono (hjoins _ _ hprogram w _ hfit) fun r w s hend =>
      ⟨hend, K.free _ _ _ h.count⟩
  | @deliver t before after hwaiting =>
    -- the order in which the others wait does not matter
    have hperm : ([] ++ p.waiting).Perm ([t] ++ (before ++ after)) := by
      rw [hwaiting]
      exact List.perm_middle
    let left : TaskPool β := { p with waiting := before ++ after }
    have hleft : S.Agreed D K [t] w left := h.perm rfl hperm
    exact agreed_resume (p := left) hD [] hfit hleft (.elapse _ t.outcome.elapsed)
      (fun w => S.elapse (w := w) t.outcome.elapsed) (.inl rfl)
  | openGate gate =>
    -- those that are let through come first, one after the other
    let left : TaskPool β :=
      { p with
        openGates := p.openGates ++ [gate]
        waiting := p.waiting.filter fun t => t.outcome.gate != some gate }
    have hleft : S.Agreed D K (p.waiting.filter fun t => t.outcome.gate == some gate) w left :=
      h.perm rfl (List.filter_append_perm _ _).symm
    exact agreed_resumeAll (p := left) hD _ hfit hleft
  | cancel number =>
    unfold TaskPool.cancel
    split
    case h_1 => exact ⟨w, hfit, h⟩
    case h_2 t hfind =>
      obtain ⟨rfl, hperm⟩ := perm_of_find hfind
      let left : TaskPool β :=
        { p with waiting := p.waiting.eraseP fun u => u.number == t.number }
      have hleft : S.Agreed D K [t] w left := h.perm rfl hperm
      exact agreed_resume (p := left) hD [] hfit hleft (.refl _) (fun _ h => h) (.inr rfl)
  | @alone γ program hprogram =>
    exact ⟨w, fit_run hD (hjoins _ _ hprogram w _ hfit), h.later (program.before_run _)⟩

/-- What is agreed in a pool is agreed in whatever becomes of it. -/
theorem agreed_of_leads (hfit : S.fit w p.scene) (h : S.Agreed D K [] w p)
    (hp : p.Leads joins p') : ∃ w', S.fit w' p'.scene ∧ S.Agreed D K [] w' p' := by
  induction hp with
  | refl => exact ⟨w, hfit, h⟩
  | tail _ hstep ih =>
    obtain ⟨w', hfit', h'⟩ := ih
    exact agreed_step hD hjoins hfit' h' hstep

/-- In every pool that can be reached the terms are agreed on. -/
theorem agreed_of_reaches (hstart : S.fit false s) (hp : p.Reaches joins s) :
    ∃ w, S.fit w p.scene ∧ S.Agreed D Contract.none [] w p :=
  agreed_of_leads hD hjoins (p := TaskPool.start s) hstart
    { count := Nat.le_refl 0
      single := rfl
      bound := fun _ ht => nomatch ht
      ended := fun _ _ hr => nomatch hr } hp.leads

/-- **A task that has ended has done what it owes,** whatever the others have done since it was
started: its result and the scene that it left behind are as they should be. -/
theorem ended_of_leads (hstart : S.fit false s) (hp : p.Reaches joins s) {program : Program β}
    {Q : Except Failure β → Scene → Prop}
    (hprogram : ∀ w, S.fit w p.scene → program.wp D (S.Fulfils Q) w p.scene)
    (hlead : (p.spawn program).2.Leads joins p') {r : Except Failure β}
    (hr : p'.outcome? p.spawned = some r) : ∃ s', s'.Before p'.scene ∧ Q r s' := by
  obtain ⟨w, hfit, h⟩ := agreed_of_reaches hD hjoins hstart hp
  -- of those that are there already nothing is asked, since they have other numbers
  let K : Contract β := Contract.single p.spawned Q
  have hother : ∀ {n r s}, n < p.spawned → K.owes n r s :=
    fun hn he => absurd he (Nat.ne_of_lt hn)
  have hstarted : S.Agreed D K [] w { p with spawned := p.spawned + 1 } :=
    { count := Nat.le_refl _
      single := h.single
      bound := fun t ht => by
        obtain ⟨hnumber, w₀, s₀, houtcome, hbefore, hnext⟩ := h.bound t ht
        refine ⟨Nat.lt_succ_of_lt hnumber, w₀, s₀, houtcome, hbefore, fun w' reply s' hback => ?_⟩
        exact Program.wp_mono (hnext w' reply s' hback) fun r w s h => ⟨h.1, hother hnumber⟩
      ended := fun n r hr => by
        obtain ⟨hnumber, s', hbefore, -⟩ := h.ended n r hr
        exact ⟨Nat.lt_succ_of_lt hnumber, s', hbefore, hother hnumber⟩ }
  obtain ⟨w', hfit', h'⟩ := agreed_run hD [] (Nat.lt_succ_self p.spawned) hstarted
    (Program.wp_mono (hprogram w hfit) fun r w s h => ⟨h.1, fun _ => h.2⟩)
  obtain ⟨_, -, h''⟩ := agreed_of_leads hD hjoins hfit' h' hlead
  unfold TaskPool.outcome? at hr
  obtain ⟨entry, hfind, rfl⟩ := Option.map_eq_some_iff.1 hr
  have hnumber : entry.1 = p.spawned := by
    have hsome := List.find?_some hfind
    exact beq_iff_eq.1 hsome
  obtain ⟨-, s', hbefore, howes⟩ :=
    h''.ended entry.1 entry.2 (List.mem_of_find?_eq_some hfind)
  exact ⟨s', hbefore, howes hnumber⟩

end Steps

omit hD in
/-- **The terms are kept in every pool that can be reached,** if those who join obey them wherever
they find a fit scene. -/
theorem orderly_of_reaches {joins : (γ : Type) → Program γ → Prop}
    (hjoins : ∀ γ program, joins γ program → ∀ w s, S.fit w s → S.Obeyed program w s)
    (hstart : S.fit false s) {p : TaskPool β} (hp : p.Reaches joins s) :
    ∃ w, S.Orderly p.waiting w p.scene := by
  obtain ⟨w, hfit, h⟩ := agreed_of_reaches S.provides_discipline hjoins hstart hp
  refine ⟨w, hfit, h.single, fun t ht w' reply s' hreturns => ?_⟩
  obtain ⟨-, w₀, s₀, -, -, hnext⟩ := h.bound t ht
  exact Program.wp_mono (hnext w' reply s' hreturns) fun _ _ _ h => h.1

end Sharing

end AqlClient
