import AqlClient.Proofs.Program.Interleaving
import AqlClient.Proofs.Program.Sending
import Mathlib.Data.List.Nodup

/-!
# Who does what in a pool

The course of a pool of tasks is cut into stretches (`Stretch`). A stretch belongs to one program.
It begins where the program is started, or where it goes on with a reply, and ends with the next
request of the program or with its end; nobody else has a turn in between. So whatever happens to
the scene in a stretch has been done by its program. Between two stretches nothing happens but that
time passes (`TaskPool.Course.unbroken`), and each request that is sent ends a stretch
(`TaskPool.Course.sent`).

What a program does in each of its stretches is said by a discipline (`Discipline.stretchwise`),
whose view is how the program finds the scene when the stretch begins, and what it has done before
(`Outset`). Programs that obey it whatever comes back can be joined to a pool in any number, and
everybody's stretches are as they should be (`TaskPool.Course.follows`). What may be relied on where
a stretch begins is an invariant of all scenes (`Scene.Lasting`).
-/

namespace AqlClient

variable {α β κ : Type}

/-! ### Stretches -/

/-- The places of the cursors that are made between two scenes. -/
def Scene.madeSince (s s' : Scene) : List Nat :=
  List.range' s.cursorCount (s'.cursorCount - s.cursorCount)

theorem Scene.mem_madeSince {s s' : Scene} {ref : Nat} :
    ref ∈ s.madeSince s' ↔ s.cursorCount ≤ ref ∧ ref < s'.cursorCount := by
  rw [madeSince, List.mem_range'_1]
  omega

/-- **How a stretch of a program begins:** the places of the cursors that the program has made, each
with the request behind which it did so, the request whose reply it goes on with, and the scene. -/
structure Outset where
  made : List (Nat × Option Request)
  cause : Option Request
  scene : Scene

namespace Outset

/-- How the first stretch of a program begins. -/
def first (s : Scene) : Outset := ⟨[], none, s⟩

/-- The cursors that a program has made by the time it comes to a scene. -/
def owned (o : Outset) (s : Scene) : List (Nat × Option Request) :=
  o.made ++ (o.scene.madeSince s).map fun ref => (ref, o.cause)

/-- How the next stretch begins, once the reply to the request has come back to a scene. -/
def onward (o : Outset) (s : Scene) (q : Request) (back : Scene) : Outset :=
  ⟨o.owned s, some q, back⟩

end Outset

/-- **A stretch of a program,** which plays some role: how it begins, the scene that it leads to,
and the request that ends it unless the program itself has ended. The task is known by its number,
unless the program is carried out on its own. -/
structure Stretch (κ : Type) where
  task : Option Nat
  role : κ
  outset : Outset
  after : Scene
  request : Option Request

/-- How the next stretch begins behind one that has ended with a request. -/
def Stretch.onward (t : Stretch κ) (q : Request) (back : Scene) : Outset :=
  t.outset.onward t.after q back

/-- The stretches of a program that has come to some scene, up to an outcome that the program has to
wait for. -/
def Program.stretches (waits : Outcome → Bool) (task : Option Nat) (role : κ) :
    Program α → Outset → Scene → List (Stretch κ)
  | .done _, o, s => [⟨task, role, o, s, none⟩]
  | .look next, o, s => stretches waits task role (next s) o s
  | .act change next, o, s => stretches waits task role next o (s.enact change)
  | .exchange q next, o, s =>
    let (outcome, sent) := s.send q
    ⟨task, role, o, sent, some q⟩ :: if waits outcome then [] else
      let (reply, back) := sent.deliver q outcome
      stretches waits task role (next reply) (o.onward sent q back) back

/-- **Nothing happens between the stretches** that lead from one scene to another, but that time
passes. -/
def Unbroken : Scene → List (Stretch κ) → Scene → Prop
  | s, [], s' => ∃ ms, s' = s.elapse ms
  | s, t :: rest, s' => (∃ ms, t.outset.scene = s.elapse ms) ∧ Unbroken t.after rest s'

namespace TaskPool

/-- The stretches of a task that runs in a pool until it has to wait or ends. -/
def stretchesOf (p : TaskPool β) (number : Nat) (role : κ) (o : Outset) (program : Program β) :
    List (Stretch κ) :=
  program.stretches (mustWait p.openGates) (some number) role o p.scene

/-- The latest stretch of a task. -/
def latestOf (stretches : List (Stretch κ)) (number : Nat) : Option (Stretch κ) :=
  (stretches.filter fun t => t.task == some number).getLast?

/-- **The course of a pool,** with all stretches in their order, and the tasks that have been let
through by a gate and are about to go on. Programs of any role may be started as tasks or carried
out on their own, outcomes may be delivered in any order, gates may be opened and tasks cancelled.
-/
inductive Course (joins : κ → (γ : Type) → Program γ → Prop) (s₀ : Scene) :
    TaskPool β → List (WaitingTask β) → List (Stretch κ) → Prop
  | start : Course joins s₀ (TaskPool.start s₀) [] []
  | spawn {p : TaskPool β} {stretches : List (Stretch κ)} {role : κ} {program : Program β} :
      Course joins s₀ p [] stretches → joins role β program →
        Course joins s₀ (p.spawn program).2 []
          (stretches ++ p.stretchesOf p.spawned role (.first p.scene) program)
  | deliver {p : TaskPool β} {stretches : List (Stretch κ)} {t : WaitingTask β}
      {before after : List (WaitingTask β)} :
      Course joins s₀ p [] stretches → p.waiting = before ++ t :: after →
        Course joins s₀ { p with waiting := before ++ after } [t] stretches
  | openGate {p : TaskPool β} {stretches : List (Stretch κ)} (gate : String) :
      Course joins s₀ p [] stretches →
        Course joins s₀
          { p with
            openGates := p.openGates ++ [gate]
            waiting := p.waiting.filter fun t => t.outcome.gate != some gate }
          (p.waiting.filter fun t => t.outcome.gate == some gate) stretches
  | goOn {p : TaskPool β} {stretches : List (Stretch κ)} {t : WaitingTask β}
      {others : List (WaitingTask β)} {last : Stretch κ} {back : Scene} :
      Course joins s₀ p (t :: others) stretches → latestOf stretches t.number = some last →
        back = p.scene.elapse t.outcome.elapsed →
        Course joins s₀ (p.resume t) others
          (stretches ++ ({ p with scene := back } : TaskPool β).stretchesOf t.number last.role
            (last.onward t.request back) (t.next (t.outcome.playback.reply t.request)))
  | cancel {p : TaskPool β} {stretches : List (Stretch κ)} {t : WaitingTask β} {number : Nat}
      {last : Stretch κ} :
      Course joins s₀ p [] stretches →
        p.waiting.find? (fun u => u.number == number) = some t →
        latestOf stretches number = some last →
        Course joins s₀ (p.cancel number) []
          (stretches ++ p.stretchesOf number last.role (last.onward t.request p.scene)
            (t.next (.error .cancelled)))
  | alone {p : TaskPool β} {stretches : List (Stretch κ)} {role : κ} {γ : Type}
      {program : Program γ} :
      Course joins s₀ p [] stretches → joins role γ program →
        Course joins s₀ (p.alone program).2 []
          (stretches ++ program.stretches (fun _ => false) none role (.first p.scene) p.scene)

end TaskPool

/-! ### What programs do in their stretches -/

theorem Scene.elapse_zero (s : Scene) : s.elapse 0 = s := by
  unfold elapse
  rw [Int.add_zero]

theorem Scene.elapse_elapse (s : Scene) (ms ms' : Int) :
    (s.elapse ms).elapse ms' = s.elapse (ms + ms') := by
  unfold elapse
  rw [← Int.add_assoc]

namespace Unbroken

variable {s s' s'' : Scene} {ts us : List (Stretch κ)}

theorem refl (s : Scene) : Unbroken s ([] : List (Stretch κ)) s := ⟨0, s.elapse_zero.symm⟩

/-- Time may pass before the first stretch. -/
theorem of_elapse {ms : Int} (h : Unbroken (s.elapse ms) ts s') : Unbroken s ts s' := by
  cases ts with
  | nil =>
    obtain ⟨ms', rfl⟩ := h
    exact ⟨ms + ms', s.elapse_elapse ms ms'⟩
  | cons t rest =>
    obtain ⟨⟨ms', ht⟩, hrest⟩ := h
    exact ⟨⟨ms + ms', ht.trans (s.elapse_elapse ms ms')⟩, hrest⟩

theorem append (h : Unbroken s ts s') (h' : Unbroken s' us s'') : Unbroken s (ts ++ us) s'' := by
  induction ts generalizing s with
  | nil =>
    obtain ⟨ms, rfl⟩ := h
    exact h'.of_elapse
  | cons t rest ih => exact ⟨h.1, ih h.2⟩

end Unbroken

/-- What may happen in a stretch: given how it begins, the scene that it leads to, and the request
that ends it. -/
abbrev StretchRule := Outset → Scene → Option Request → Prop

/-- A predicate that lasts: no step and no request of anybody can make it false. -/
structure Scene.Lasting (I : Scene → Prop) : Prop where
  enact : ∀ {s : Scene} (change : Change), I s → I (s.enact change)
  send : ∀ {s : Scene} (q : Request), I s → I (s.send q).2

/-- **Each stretch obeys a rule.** The view is how the present stretch has begun. A reply comes back
to any scene in which `I` holds, and that has at least as many cursors as the one in which the
request was sent. -/
def Discipline.stretchwise (I : Scene → Prop) (rule : StretchRule) : Discipline Outset where
  may o s q := rule o (s.send q).2 (some q)
  back o s q o' _ s' := I s' ∧ s.cursorCount ≤ s'.cursorCount ∧ o' = o.onward s q s'

/-- **A program abides by a rule** in the rest of a stretch and in all further ones, whatever comes
back and whatever the others do meanwhile. -/
def Program.Abides (I : Scene → Prop) (rule : StretchRule) (p : Program α) (o : Outset)
    (s : Scene) : Prop :=
  p.wp (.stretchwise I rule) (fun _ o s => rule o s none) o s

namespace Program

variable {I : Scene → Prop} {rule : StretchRule} {p : Program α} {o : Outset} {s : Scene}
  {waits : Outcome → Bool} {task : Option Nat} {role : κ}

theorem stretches_ne_nil (p : Program α) (o : Outset) (s : Scene) :
    p.stretches waits task role o s ≠ [] := by
  induction p generalizing s with
  | done r => exact List.cons_ne_nil _ _
  | look next ih => exact ih s s
  | act change next ih => exact ih _
  | exchange q next ih => exact List.cons_ne_nil _ _

/-- The stretches of a program that abides by a rule obey it. -/
theorem Abides.stretches (hI : Scene.Lasting I) (h : p.Abides I rule o s) (hs : I s) :
    ∀ t ∈ p.stretches waits task role o s,
      t.task = task ∧ t.role = role ∧ rule t.outset t.after t.request := by
  induction p generalizing o s with
  | done r =>
    intro t ht
    rw [List.mem_singleton.1 ht]
    exact ⟨rfl, rfl, h⟩
  | look next ih => exact ih s h hs
  | act change next ih => exact ih h (hI.enact change hs)
  | exchange q next ih =>
    intro t ht
    obtain rfl | ht := List.mem_cons.1 ht
    · exact ⟨rfl, rfl, h.1⟩
    · split at ht
      · cases ht
      · have hback : I ((s.send q).2.deliver q (s.send q).1).2 :=
          hI.enact (.elapsed _) (hI.send q hs)
        exact ih _ (h.2 _ _ _ ⟨hback, Nat.le_refl _, rfl⟩) hback t ht

/-- **What the stretches of a program come to,** if they lead to the scene `s'`. -/
structure Stretched (I : Scene → Prop) (o : Outset) (s s' : Scene) (ts : List (Stretch κ)) :
    Prop where
  scene : I s'
  count : s.cursorCount ≤ s'.cursorCount
  sent : s'.sent = s.sent ++ ts.filterMap Stretch.request
  unbroken : Unbroken o.scene ts s'

theorem stretched_done (hs : I s) (r : Except Failure α) :
    Stretched I o s s ((done r : Program α).stretches waits task role o s) :=
  ⟨hs, Nat.le_refl _, (List.append_nil _).symm, ⟨0, o.scene.elapse_zero.symm⟩, .refl s⟩

theorem Stretched.act {s' : Scene} {ts : List (Stretch κ)} {change : Change}
    (h : Stretched I o (s.enact change) s' ts) : Stretched I o s s' ts := by
  refine ⟨h.scene, Nat.le_trans (s.cursorCount_le_enact change) h.count, ?_, h.unbroken⟩
  rw [← s.enact_sent change]
  exact h.sent

/-- One more stretch before the others, which begin with the reply. -/
theorem Stretched.exchange {s' : Scene} {ts : List (Stretch κ)} {q : Request} {ms : Int}
    (h : Stretched I (o.onward (s.send q).2 q ((s.send q).2.elapse ms)) ((s.send q).2.elapse ms) s'
      ts) : Stretched I o s s' (⟨task, role, o, (s.send q).2, some q⟩ :: ts) := by
  refine ⟨h.scene, h.count, h.sent.trans ?_, ⟨0, o.scene.elapse_zero.symm⟩, h.unbroken.of_elapse⟩
  show (s.send q).2.sent ++ _ = _
  rw [s.send_sent, List.append_assoc]
  rfl

/-- On its own, a program leaves the requests of its stretches in the history. -/
theorem Abides.run (hI : Scene.Lasting I) (h : p.Abides I rule o s) (hs : I s) :
    Stretched I o s (p.run s).2 (p.stretches (fun _ => false) task role o s) := by
  induction p generalizing o s with
  | done r => exact stretched_done hs r
  | look next ih => exact ih s h hs
  | act change next ih => exact (ih h (hI.enact change hs)).act
  | exchange q next ih =>
    have hback : I (s.play q).2 := hI.enact (.elapsed _) (hI.send q hs)
    exact (ih _ (h.2 _ _ _ ⟨hback, Nat.le_refl _, rfl⟩) hback).exchange

end Program

/-! ### The course of a pool -/

namespace TaskPool

variable {I : Scene → Prop} {rule : StretchRule} {rules : κ → StretchRule} {p : TaskPool β}
  {program : Program β} {o : Outset} {s s₀ : Scene} {number : Nat} {role : κ}
  {stretches : List (Stretch κ)} {others others' : List (WaitingTask β)} {t : WaitingTask β}

/-- What a waiting task does once it goes on, given its latest stretch. -/
structure GoesOn (I : Scene → Prop) (rule : StretchRule) (t : WaitingTask β) (last : Stretch κ)
    (s : Scene) : Prop where
  count : last.after.cursorCount ≤ s.cursorCount
  abides : ∀ reply s', I s' → last.after.cursorCount ≤ s'.cursorCount →
    (t.next reply).Abides I rule (last.onward t.request s') s'

/-- How the run of a task ends: the task waits, or it has ended. -/
structure Ran (I : Scene → Prop) (rule : StretchRule) (number : Nat) (o : Outset)
    (p p' : TaskPool β) (stretches : List (Stretch κ)) : Prop where
  spawned : p'.spawned = p.spawned
  stretched : Program.Stretched I o p.scene p'.scene stretches
  waiting : p'.waiting = p.waiting ∨ ∃ t last, p'.waiting = p.waiting ++ [t] ∧ t.number = number ∧
    stretches.getLast? = some last ∧ GoesOn I rule t last p'.scene

/-- **A task runs until it has to wait or ends.** -/
theorem ran_run (hI : Scene.Lasting I) (h : program.Abides I rule o p.scene) (hs : I p.scene) :
    Ran I rule number o p (run number program p)
      (program.stretches (mustWait p.openGates) (some number) role o p.scene) := by
  induction program generalizing p o with
  | done r => exact ⟨rfl, Program.stretched_done hs r, .inl rfl⟩
  | look next ih => exact ih p.scene h hs
  | act change next ih =>
    obtain ⟨hspawned, hstretched, hwaiting⟩ :=
      ih (p := { p with scene := p.scene.enact change }) h (hI.enact change hs)
    exact ⟨hspawned, hstretched.act, hwaiting⟩
  | exchange q next ih =>
    unfold run Program.stretches
    have hback : I ((p.scene.send q).2.elapse (p.scene.send q).1.elapsed) :=
      hI.enact (.elapsed _) (hI.send q hs)
    dsimp only
    split
    case isTrue =>
      refine ⟨rfl, ⟨hI.send q hs, Nat.le_refl _, p.scene.send_sent q,
        ⟨0, o.scene.elapse_zero.symm⟩, .refl _⟩, .inr ⟨_, _, rfl, rfl, rfl, Nat.le_refl _, ?_⟩⟩
      exact fun reply s' hs' hcount => h.2 _ reply s' ⟨hs', hcount, rfl⟩
    case isFalse =>
      -- the reply is there at once, and another stretch begins with it
      obtain ⟨hspawned, hstretched, hwaiting⟩ :=
        ih _ (p := { p with scene := (p.scene.send q).2.elapse (p.scene.send q).1.elapsed })
          (h.2 _ _ _ ⟨hback, Nat.le_refl _, rfl⟩) hback
      refine ⟨hspawned, hstretched.exchange, hwaiting.imp_right ?_⟩
      rintro ⟨t, last, hwaiting, hnumber, hlast, hgoesOn⟩
      refine ⟨t, last, hwaiting, hnumber, ?_, hgoesOn⟩
      rw [List.getLast?_cons_of_ne_nil (Program.stretches_ne_nil _ _ _)]
      exact hlast

/-- **All stretches obey the rules of their roles,** and so will those of the tasks that wait, or
that are about to go on. -/
structure Followed (I : Scene → Prop) (rules : κ → StretchRule) (s₀ : Scene) (p : TaskPool β)
    (others : List (WaitingTask β)) (stretches : List (Stretch κ)) : Prop where
  scene : I p.scene
  obeyed : ∀ t ∈ stretches, rules t.role t.outset t.after t.request
  distinct : ((others ++ p.waiting).map WaitingTask.number).Nodup
  awaited : ∀ t ∈ others ++ p.waiting, t.number < p.spawned ∧
    ∃ last, latestOf stretches t.number = some last ∧ GoesOn I (rules last.role) t last p.scene
  sent : p.scene.sent = s₀.sent ++ stretches.filterMap Stretch.request
  unbroken : Unbroken s₀ stretches p.scene

theorem latestOf_append_self {more : List (Stretch κ)} (h : ∀ t ∈ more, t.task = some number)
    (hne : more ≠ []) : latestOf (stretches ++ more) number = more.getLast? := by
  have hall : more.filter (fun t => t.task == some number) = more :=
    List.filter_eq_self.2 fun t ht => beq_iff_eq.2 (h t ht)
  unfold latestOf
  rw [List.filter_append, hall, List.getLast?_append_of_ne_nil _ hne]

theorem latestOf_append_of_ne {more : List (Stretch κ)} (h : ∀ t ∈ more, t.task ≠ some number) :
    latestOf (stretches ++ more) number = latestOf stretches number := by
  have hnone : more.filter (fun t => t.task == some number) = [] :=
    List.filter_eq_nil_iff.2 fun t ht => by simpa using h t ht
  unfold latestOf
  rw [List.filter_append, hnone, List.append_nil]

theorem GoesOn.later {last : Stretch κ} {s' : Scene} (h : GoesOn I rule t last s)
    (hcount : s.cursorCount ≤ s'.cursorCount) : GoesOn I rule t last s' :=
  ⟨Nat.le_trans h.count hcount, h.abides⟩

namespace Followed

/-- The order in which tasks wait does not matter, nor which of them are about to go on. -/
theorem perm {p' : TaskPool β} (h : Followed I rules s₀ p others stretches)
    (hp' : p' = { p with waiting := p'.waiting, openGates := p'.openGates })
    (hperm : (others ++ p.waiting).Perm (others' ++ p'.waiting)) :
    Followed I rules s₀ p' others' stretches := by
  rw [hp']
  exact ⟨h.scene, h.obeyed, (hperm.map _).nodup_iff.1 h.distinct,
    fun t ht => h.awaited t (hperm.mem_iff.2 ht), h.sent, h.unbroken⟩

/-- Time passes. -/
theorem elapse (hI : Scene.Lasting I) (h : Followed I rules s₀ p others stretches) (ms : Int) :
    Followed I rules s₀ { p with scene := p.scene.elapse ms } others stretches where
  scene := hI.enact (.elapsed ms) h.scene
  obeyed := h.obeyed
  distinct := h.distinct
  awaited t ht := by
    obtain ⟨hnumber, last, hlast, hgoesOn⟩ := h.awaited t ht
    exact ⟨hnumber, last, hlast, hgoesOn.later (Nat.le_refl _)⟩
  sent := h.sent
  unbroken := by
    have htime : Unbroken p.scene ([] : List (Stretch κ)) (p.scene.elapse ms) := ⟨ms, rfl⟩
    rw [← List.append_nil stretches]
    exact h.unbroken.append htime

/-- One that is about to go on is put aside. -/
theorem tail (h : Followed I rules s₀ p (t :: others) stretches) :
    Followed I rules s₀ p others stretches :=
  ⟨h.scene, h.obeyed, (List.nodup_cons.1 h.distinct).2,
    fun u hu => h.awaited u (List.mem_cons_of_mem t hu), h.sent, h.unbroken⟩

/-- Some more stretches that obey the rule of their role. -/
theorem obeyed_append {more : List (Stretch κ)} {task : Option Nat}
    (h : Followed I rules s₀ p others stretches)
    (hmore : ∀ t ∈ more, t.task = task ∧ t.role = role ∧ rules role t.outset t.after t.request) :
    ∀ t ∈ stretches ++ more, rules t.role t.outset t.after t.request := by
  intro t ht
  obtain hold | hadded := List.mem_append.1 ht
  · exact h.obeyed t hold
  · rw [(hmore t hadded).2.1]
    exact (hmore t hadded).2.2

/-- Those that wait go on as they would have, whatever the stretches of somebody else come to. -/
theorem awaited_append {more : List (Stretch κ)} {s' : Scene}
    (h : Followed I rules s₀ p others stretches) (hcount : p.scene.cursorCount ≤ s'.cursorCount)
    (hmore : ∀ u ∈ more, ∀ t ∈ others ++ p.waiting, u.task ≠ some t.number) :
    ∀ t ∈ others ++ p.waiting, t.number < p.spawned ∧
      ∃ last, latestOf (stretches ++ more) t.number = some last ∧
        GoesOn I (rules last.role) t last s' := by
  intro t ht
  obtain ⟨hnumber, last, hlast, hgoesOn⟩ := h.awaited t ht
  refine ⟨hnumber, last, ?_, hgoesOn.later hcount⟩
  rw [latestOf_append_of_ne fun u hu => hmore u hu t ht]
  exact hlast

theorem sent_append {more : List (Stretch κ)} {s' : Scene}
    (h : Followed I rules s₀ p others stretches)
    (hsent : s'.sent = p.scene.sent ++ more.filterMap Stretch.request) :
    s'.sent = s₀.sent ++ (stretches ++ more).filterMap Stretch.request := by
  rw [hsent, h.sent, List.filterMap_append, List.append_assoc]

/-- **A task runs,** while the others wait or are about to go on. -/
theorem ran (hI : Scene.Lasting I) (h : Followed I rules s₀ p others stretches)
    (hother : number ∉ (others ++ p.waiting).map WaitingTask.number) (hnumber : number < p.spawned)
    (ho : o.scene = p.scene) (hprogram : program.Abides I (rules role) o p.scene) :
    Followed I rules s₀ (run number program p) others
      (stretches ++ p.stretchesOf number role o program) := by
  have hran : Ran I (rules role) number o p (run number program p)
      (p.stretchesOf number role o program) := ran_run hI hprogram h.scene
  obtain ⟨hspawned, hstretched, hwaiting⟩ := hran
  have hnew : ∀ t ∈ p.stretchesOf number role o program,
      t.task = some number ∧ t.role = role ∧ rules role t.outset t.after t.request :=
    hprogram.stretches hI h.scene
  have hothers := h.awaited_append hstretched.count fun u hu t ht htask => by
    -- the stretches that are added are those of the task that runs
    rw [(hnew u hu).1, Option.some.injEq] at htask
    exact hother (List.mem_map.2 ⟨t, ht, htask.symm⟩)
  have hunbroken := h.unbroken.append (ho ▸ hstretched.unbroken)
  have hobeyed := h.obeyed_append hnew
  have hsent := h.sent_append hstretched.sent
  rw [← hspawned] at hothers hnumber
  obtain hwaiting | ⟨t, last, hwaiting, rfl, hlast, hgoesOn⟩ := hwaiting
  · exact ⟨hstretched.scene, hobeyed, hwaiting.symm ▸ h.distinct, hwaiting.symm ▸ hothers, hsent,
      hunbroken⟩
  · refine ⟨hstretched.scene, hobeyed, ?_, ?_, hsent, hunbroken⟩
    · rw [hwaiting, ← List.append_assoc, List.map_append]
      refine List.nodup_append.2 ⟨h.distinct, List.nodup_singleton _, ?_⟩
      rintro _ hold _ hnew rfl
      exact hother (List.mem_singleton.1 hnew ▸ hold)
    · intro u hu
      rw [hwaiting, ← List.append_assoc, List.mem_append, List.mem_singleton] at hu
      obtain hu | rfl := hu
      · exact hothers u hu
      · refine ⟨hnumber, last, ?_, ?_⟩
        · rw [latestOf_append_self (fun t ht => (hnew t ht).1) (Program.stretches_ne_nil _ _ _)]
          exact hlast
        · rw [(hnew last (List.mem_of_getLast? hlast)).2.1]
          exact hgoesOn

/-- **A task goes on** with some reply, in the role in which it was started. -/
theorem goOn (hI : Scene.Lasting I) (h : Followed I rules s₀ p (t :: others) stretches)
    {last : Stretch κ} (hlast : latestOf stretches t.number = some last)
    (reply : Except Failure Response) :
    Followed I rules s₀ (run t.number (t.next reply) p) others
      (stretches ++ p.stretchesOf t.number last.role (last.onward t.request p.scene)
        (t.next reply)) := by
  obtain ⟨hnumber, last', hlast', hgoesOn⟩ := h.awaited t List.mem_cons_self
  obtain rfl : last' = last := Option.some.inj (hlast'.symm.trans hlast)
  exact h.tail.ran hI (List.nodup_cons.1 h.distinct).1 hnumber rfl
    (hgoesOn.abides reply p.scene h.scene hgoesOn.count)

end Followed

/-! ### Courses -/

section Courses

variable {joins : κ → (γ : Type) → Program γ → Prop}

/-- **All stretches of a pool are as they should be,** if those who join it abide by the rules of
their roles wherever they find a scene in which the invariant holds. -/
theorem Course.followed (hI : Scene.Lasting I)
    (hjoins : ∀ role γ (program : Program γ), joins role γ program →
      ∀ s, I s → program.Abides I (rules role) (.first s) s)
    (hstart : I s₀) (h : Course joins s₀ p others stretches) :
    Followed I rules s₀ p others stretches := by
  induction h with
  | start =>
    exact ⟨hstart, fun _ ht => absurd ht List.not_mem_nil, List.nodup_nil,
      fun _ ht => absurd ht List.not_mem_nil, (List.append_nil _).symm, .refl _⟩
  | @spawn p stretches role program _ hprogram ih =>
    have hstarted : Followed I rules s₀ { p with spawned := p.spawned + 1 } [] stretches :=
      ⟨ih.scene, ih.obeyed, ih.distinct, fun t ht => by
        obtain ⟨hnumber, hgoesOn⟩ := ih.awaited t ht
        exact ⟨Nat.lt_succ_of_lt hnumber, hgoesOn⟩, ih.sent, ih.unbroken⟩
    refine hstarted.ran hI (fun hmem => ?_) (Nat.lt_succ_self _) rfl
      (hjoins _ _ _ hprogram _ ih.scene)
    -- the numbers of the tasks that wait have been given out before
    obtain ⟨t, ht, hnumber⟩ := List.mem_map.1 hmem
    exact absurd hnumber (Nat.ne_of_lt (ih.awaited t ht).1)
  | @deliver p stretches t before after _ hwaiting ih =>
    refine ih.perm rfl ?_
    show p.waiting.Perm (t :: (before ++ after))
    rw [hwaiting]
    exact List.perm_middle
  | openGate gate _ ih => exact ih.perm rfl (List.filter_append_perm _ _).symm
  | @goOn p stretches t others last back _ hlast hback ih =>
    obtain rfl := hback
    exact (ih.elapse hI t.outcome.elapsed).goOn hI hlast (t.outcome.playback.reply t.request)
  | @cancel p stretches t number last _ hfind hlast ih =>
    obtain ⟨rfl, hperm⟩ := Sharing.perm_of_find hfind
    unfold TaskPool.cancel
    rw [hfind]
    let left : TaskPool β :=
      { p with waiting := p.waiting.eraseP fun u => u.number == t.number }
    have hleft : Followed I rules s₀ left [t] stretches := ih.perm rfl hperm
    exact hleft.goOn hI hlast (.error .cancelled)
  | @alone p stretches role γ program _ hprogram ih =>
    have hprogram := hjoins _ _ _ hprogram _ ih.scene
    let more := program.stretches (fun _ => false) none role (.first p.scene) p.scene
    have hnew : ∀ t ∈ more, t.task = none ∧ t.role = role ∧ rules role t.outset t.after t.request :=
      hprogram.stretches hI ih.scene
    have hstretched : Program.Stretched I (.first p.scene) p.scene (program.run p.scene).2 more :=
      hprogram.run hI ih.scene
    refine ⟨hstretched.scene, ih.obeyed_append hnew, ih.distinct,
      ih.awaited_append hstretched.count fun u hu t _ htask => ?_,
      ih.sent_append hstretched.sent, ih.unbroken.append hstretched.unbroken⟩
    rw [(hnew u hu).1] at htask
    cases htask

/-- **All stretches obey the rules of their roles,** whatever becomes of the pool. -/
theorem Course.follows (hI : Scene.Lasting I)
    (hjoins : ∀ role γ (program : Program γ), joins role γ program →
      ∀ s, I s → program.Abides I (rules role) (.first s) s)
    (hstart : I s₀) (h : Course joins s₀ p others stretches) :
    ∀ t ∈ stretches, rules t.role t.outset t.after t.request :=
  (h.followed hI hjoins hstart).obeyed

/-! Where everything may be done, all programs do what they may. -/

theorem abides_true (program : Program α) (o : Outset) (s : Scene) :
    program.Abides (fun _ => True) (fun _ _ _ => True) o s := by
  unfold Program.Abides
  induction program generalizing o s with
  | done r => trivial
  | look next ih => exact ih s _ s
  | act change next ih => exact ih _ _
  | exchange q next ih => exact ⟨trivial, fun w reply s' _ => ih reply w s'⟩

theorem Course.followed_true (h : Course joins s₀ p others stretches) :
    Followed (fun _ => True) (fun _ _ _ _ => True) s₀ p others stretches :=
  h.followed ⟨fun _ _ => trivial, fun _ _ => trivial⟩
    (fun _ _ program _ s _ => abides_true program (.first s) s) trivial

/-- **Each request that is sent ends a stretch,** in the order in which they are sent. -/
theorem Course.sent (h : Course joins s₀ p others stretches) :
    p.scene.sent = s₀.sent ++ stretches.filterMap Stretch.request :=
  h.followed_true.sent

/-- **Nothing happens between the stretches,** but that time passes. -/
theorem Course.unbroken (h : Course joins s₀ p others stretches) :
    Unbroken s₀ stretches p.scene :=
  h.followed_true.unbroken

/-- Those that are let through by a gate go on. -/
theorem Course.resumeAll (released : List (WaitingTask β))
    (h : Course joins s₀ p released stretches) :
    ∃ stretches', Course joins s₀ (released.foldl resume p) [] stretches' := by
  induction released generalizing p stretches with
  | nil => exact ⟨stretches, h⟩
  | cons t rest ih =>
    obtain ⟨-, last, hlast, -⟩ := h.followed_true.awaited t List.mem_cons_self
    exact ih (h.goOn hlast rfl)

/-- **Every pool that can be reached has a course.** -/
theorem Reaches.course (h : p.Reaches (fun γ program => ∃ role, joins role γ program) s₀) :
    ∃ stretches, Course joins s₀ p [] stretches := by
  induction h with
  | start => exact ⟨[], .start⟩
  | spawn _ hprogram ih =>
    obtain ⟨stretches, hcourse⟩ := ih
    obtain ⟨role, hprogram⟩ := hprogram
    exact ⟨_, hcourse.spawn hprogram⟩
  | deliver _ hwaiting ih =>
    obtain ⟨stretches, hcourse⟩ := ih
    exact (hcourse.deliver hwaiting).resumeAll
  | openGate gate _ ih =>
    obtain ⟨stretches, hcourse⟩ := ih
    exact (hcourse.openGate gate).resumeAll
  | @cancel p number _ ih =>
    obtain ⟨stretches, hcourse⟩ := ih
    cases hfind : p.waiting.find? (fun u => u.number == number) with
    | none =>
      have hsame : p.cancel number = p := by
        unfold TaskPool.cancel
        rw [hfind]
      exact ⟨stretches, hsame.symm ▸ hcourse⟩
    | some t =>
      obtain ⟨hnumber, -⟩ := Sharing.perm_of_find hfind
      obtain ⟨-, last, hlast, -⟩ :=
        hcourse.followed_true.awaited t (List.mem_of_find?_eq_some hfind)
      exact ⟨_, hcourse.cancel hfind (hnumber ▸ hlast)⟩
  | alone _ hprogram ih =>
    obtain ⟨stretches, hcourse⟩ := ih
    obtain ⟨role, hprogram⟩ := hprogram
    exact ⟨_, hcourse.alone hprogram⟩

end Courses

end TaskPool

end AqlClient
