import AqlClient.Program.Basic

/-!
# Reasoning about programs

What holds once a program has ended, whatever happens at its exchanges
(`Program.wp`). Between two exchanges a program runs by itself, so that its steps are
followed one by one. At an exchange others may get their turn: what a program owes them
there and what it may rely on afterwards is a parameter, the *discipline*.

* `Discipline.alone` is the one of a program that is carried out on its own: nothing happens
  at its exchanges but the exchange itself. Under it `Program.wp` speaks of `Program.run`
  (`Program.wp_alone`).
* `Discipline.hostile` relies on nothing of the scene to which a reply comes back.

A discipline has a *view*, by which a program remembers what the others are about. It
changes at exchanges only.

`Program.Avoids` is the plain syntactic counterpart: a program none of whose steps and
requests is of a certain kind, in whatever scene it runs.
-/

namespace AqlClient

variable {α β ω : Type}

/-- **The terms under which programs share a scene.** A program with view `w` may send `q` from
`s` if `may w s q`, and goes on with view `w'` and a reply from `s'` only if
`back w s q w' reply s'`. -/
structure Discipline (ω : Type) where
  may : ω → Scene → Request → Prop
  back : ω → Scene → Request → ω → Except Failure Response → Scene → Prop

namespace Discipline

/-- Nothing happens at an exchange but the exchange itself. -/
def alone : Discipline ω where
  may _ _ _ := True
  back w s q w' reply s' := w' = w ∧ s.play q = (reply, s')

/-- The scene behind an exchange at which nothing else happens. -/
theorem alone_back {w w' : ω} {s s' : Scene} {q : Request} {reply : Except Failure Response}
    (h : alone.back w s q w' reply s') :
    w' = w ∧ s' = (s.send q).2.elapse (s.send q).1.elapsed := by
  obtain ⟨hw, hplay⟩ := h
  refine ⟨hw, ?_⟩
  rw [← Scene.play_snd, hplay]

/-- Anything may happen at an exchange, but the requests are of a certain kind, and so are the
failures of an exchange. -/
def hostile (may : Request → Prop) (fails : Failure → Prop) : Discipline Unit where
  may _ _ q := may q
  back _ _ _ _ reply _ := ∀ e, reply = .error e → fails e

end Discipline

namespace Program

/-- **What a program leads to:** every way in which it ends under a discipline satisfies
`Q`. -/
def wp (D : Discipline ω) : Program α → (Except Failure α → ω → Scene → Prop) → ω → Scene → Prop
  | .done r, Q, w, s => Q r w s
  | .look next, Q, w, s => wp D (next s) Q w s
  | .act change next, Q, w, s => wp D next Q w (s.enact change)
  | .exchange q next, Q, w, s =>
    D.may w s q ∧ ∀ w' reply s', D.back w s q w' reply s' → wp D (next reply) Q w' s'

variable {D : Discipline ω} {Q R : Except Failure α → ω → Scene → Prop} {w : ω} {s : Scene}

theorem wp_mono {p : Program α} (h : p.wp D Q w s) (hQR : ∀ r w s, Q r w s → R r w s) :
    p.wp D R w s := by
  induction p generalizing w s with
  | done r => exact hQR _ _ _ h
  | look next ih => exact ih _ h
  | act change next ih => exact ih h
  | exchange q next ih => exact ⟨h.1, fun w' reply s' hb => ih reply (h.2 w' reply s' hb)⟩

/-! ### Sequencing -/

/-- What has to hold after a program for `Q` to hold after it and its continuation. -/
def chain (D : Discipline ω) (f : α → Program β) (Q : Except Failure β → ω → Scene → Prop) :
    Except Failure α → ω → Scene → Prop
  | .ok a => (f a).wp D Q
  | .error e => Q (.error e)

@[simp] theorem chain_ok (f : α → Program β) (Q : Except Failure β → ω → Scene → Prop) (a : α) :
    chain D f Q (.ok a) w s ↔ (f a).wp D Q w s := Iff.rfl

@[simp] theorem chain_error (f : α → Program β) (Q : Except Failure β → ω → Scene → Prop)
    (e : Failure) : chain D f Q (.error e) w s ↔ Q (.error e) w s := Iff.rfl

theorem wp_bind (p : Program α) (f : α → Program β) (Q : Except Failure β → ω → Scene → Prop) :
    (p >>= f).wp D Q w s ↔ p.wp D (chain D f Q) w s := by
  change (p.bind f).wp D Q w s ↔ _
  induction p generalizing w s with
  | done r => cases r <;> rfl
  | look next ih => exact ih _
  | act change next ih => exact ih
  | exchange q next ih =>
    exact and_congr_right fun _ => forall_congr' fun _ => forall_congr' fun _ =>
      forall_congr' fun _ => imp_congr_right fun _ => ih _

/-- **One program after another:** what the first one leads to is enough for the rest. -/
theorem wp_seq {p : Program α} {f : α → Program β} {T : Except Failure β → ω → Scene → Prop}
    (hp : p.wp D R w s) (hok : ∀ a w s, R (.ok a) w s → (f a).wp D T w s)
    (herror : ∀ e w s, R (.error e) w s → T (.error e) w s) : (p >>= f).wp D T w s := by
  rw [wp_bind]
  refine wp_mono hp fun r w s h => ?_
  cases r with
  | ok a => exact hok a w s h
  | error e => exact herror e w s h

theorem wp_attempt (p : Program α) (Q : Except Failure (Except Failure α) → ω → Scene → Prop) :
    p.attempt.wp D Q w s ↔ p.wp D (fun r w s => Q (.ok r) w s) w s := by
  induction p generalizing w s with
  | done r => rfl
  | look next ih => exact ih _
  | act change next ih => exact ih
  | exchange q next ih =>
    exact and_congr_right fun _ => forall_congr' fun _ => forall_congr' fun _ =>
      forall_congr' fun _ => imp_congr_right fun _ => ih _

@[simp] theorem wp_pure (a : α) : (pure a : Program α).wp D Q w s ↔ Q (.ok a) w s := Iff.rfl

@[simp] theorem wp_throw (e : Failure) :
    (throw e : Program α).wp D Q w s ↔ Q (.error e) w s := Iff.rfl

@[simp] theorem wp_ofExcept (r : Except Failure α) : (ofExcept r).wp D Q w s ↔ Q r w s := Iff.rfl

@[simp] theorem wp_view (f : Scene → α) : (view f).wp D Q w s ↔ Q (.ok (f s)) w s := Iff.rfl

@[simp] theorem wp_update (change : Change) (Q : Except Failure Unit → ω → Scene → Prop) :
    (update change).wp D Q w s ↔ Q (.ok ()) w (s.enact change) := Iff.rfl

@[simp] theorem wp_record (level : LogLevel) (text : String)
    (Q : Except Failure Unit → ω → Scene → Prop) :
    (record level text).wp D Q w s ↔ Q (.ok ()) w (s.record level text) := Iff.rfl

theorem wp_send (q : Request) (Q : Except Failure Response → ω → Scene → Prop) :
    (send q).wp D Q w s ↔
      D.may w s q ∧ ∀ w' reply s', D.back w s q w' reply s' → Q reply w' s' := Iff.rfl

/-! What a program does first is taken off from the front of it. -/

section First

variable (Q : Except Failure β → ω → Scene → Prop)

theorem wp_view_bind (f : Scene → α) (k : α → Program β) :
    (view f >>= k).wp D Q w s ↔ (k (f s)).wp D Q w s := Iff.rfl

theorem wp_update_bind (change : Change) (k : Unit → Program β) :
    (update change >>= k).wp D Q w s ↔ (k ()).wp D Q w (s.enact change) := Iff.rfl

theorem wp_attempt_bind (p : Program α) (k : Except Failure α → Program β) :
    (p.attempt >>= k).wp D Q w s ↔ p.wp D (fun r w s => (k r).wp D Q w s) w s := by
  rw [wp_bind, wp_attempt]
  exact Iff.rfl

end First

/-- **What is reckoned with the time** is a value to go on with, or a failure. -/
theorem wp_byClock {f : Int → Except Failure α} {k : α → Program β}
    {T : Except Failure β → ω → Scene → Prop} (hok : ∀ a, f s.now = .ok a → (k a).wp D T w s)
    (herror : ∀ e, f s.now = .error e → T (.error e) w s) :
    (now >>= fun time => ofExcept (f time) >>= k).wp D T w s := by
  unfold now
  rw [wp_view_bind, wp_bind, wp_ofExcept]
  cases h : f s.now with
  | ok a => exact hok a h
  | error e => exact herror e h

/-! ### On its own -/

/-- A program that is carried out on its own ends as `Program.run` says. -/
theorem wp_alone (p : Program α) : p.wp .alone Q w s ↔ Q (p.run s).1 w (p.run s).2 := by
  induction p generalizing w s with
  | done r => rfl
  | look next ih => exact ih _
  | act change next ih => exact ih
  | exchange q next ih =>
    constructor
    · rintro ⟨-, h⟩
      exact (ih _).1 (h w (s.play q).1 (s.play q).2 ⟨rfl, rfl⟩)
    · intro h
      refine ⟨trivial, ?_⟩
      rintro w' reply s' ⟨rfl, hplay⟩
      refine (ih reply).2 ?_
      simpa only [run, hplay] using h

/-- What a program leads to on its own holds at the end of its run. -/
theorem run_of_wp {p : Program α} (h : p.wp .alone Q w s) {r : Except Failure α} {s' : Scene}
    (hrun : p.run s = (r, s')) : Q r w s' := by
  have hend := (wp_alone p).1 h
  rw [hrun] at hend
  exact hend

/-! What a program comes to on its own, put together from what its parts come to. -/

theorem run_bind (p : Program α) (f : α → Program β) (s : Scene) : (p >>= f).run s =
    match p.run s with
    | (.ok a, s') => (f a).run s'
    | (.error e, s') => (.error e, s') := by
  change (p.bind f).run s = _
  induction p generalizing s with
  | done r => cases r <;> rfl
  | look next ih => exact ih _ s
  | act change next ih => exact ih _
  | exchange q next ih => exact ih _ _

theorem bind_assoc {γ : Type} (p : Program α) (f : α → Program β) (g : β → Program γ) :
    p >>= f >>= g = p >>= fun a => f a >>= g := by
  change (p.bind f).bind g = p.bind fun a => (f a).bind g
  induction p with
  | done r => cases r <;> rfl
  | look next ih => exact congrArg look (funext ih)
  | act change next ih => exact congrArg (act change) ih
  | exchange q next ih => exact congrArg (exchange q) (funext ih)

theorem bind_pure (p : Program α) : p >>= pure = p := by
  change p.bind (fun a => pure a) = p
  induction p with
  | done r => cases r <;> rfl
  | look next ih => exact congrArg look (funext ih)
  | act change next ih => exact congrArg (act change) ih
  | exchange q next ih => exact congrArg (exchange q) (funext ih)

/-- A program that ends well has gone through its first part. -/
theorem run_bind_ok {p : Program α} {f : α → Program β} {b : β} {s s' : Scene}
    (h : (p >>= f).run s = (.ok b, s')) :
    ∃ a s'', p.run s = (.ok a, s'') ∧ (f a).run s'' = (.ok b, s') := by
  rw [run_bind] at h
  split at h
  case h_1 a s'' hp => exact ⟨a, s'', hp, h⟩
  case h_2 => cases h

theorem run_attempt (p : Program α) (s : Scene) :
    p.attempt.run s = (.ok (p.run s).1, (p.run s).2) := by
  induction p generalizing s with
  | done r => rfl
  | look next ih => exact ih _ s
  | act change next ih => exact ih _
  | exchange q next ih => exact ih _ _

/-! ### At once -/

/-- What a program comes to that does not send anything. -/
def atOnce : Program α → Scene → Option (Except Failure α × Scene)
  | .done r, s => some (r, s)
  | .look next, s => atOnce (next s) s
  | .act change next, s => atOnce next (s.enact change)
  | .exchange _ _, _ => none

@[simp] theorem atOnce_throw (e : Failure) (s : Scene) :
    (throw e : Program α).atOnce s = some (.error e, s) := rfl

theorem atOnce_view_bind (f : Scene → α) (k : α → Program β) (s : Scene) :
    (view f >>= k).atOnce s = (k (f s)).atOnce s := rfl

/-- A program that comes to a value at once goes on with it. -/
theorem atOnce_bind_ok {p : Program α} {f : α → Program β} {s s' : Scene} {a : α}
    (h : p.atOnce s = some (.ok a, s')) : (p >>= f).atOnce s = (f a).atOnce s' := by
  change (p.bind f).atOnce s = _
  induction p generalizing s with
  | done r =>
    cases h
    rfl
  | look next ih => exact ih s h
  | act change next ih => exact ih h
  | exchange q next ih => cases h

/-- A program that fails at once ends there. -/
theorem atOnce_bind_error {p : Program α} {f : α → Program β} {s s' : Scene} {e : Failure}
    (h : p.atOnce s = some (.error e, s')) : (p >>= f).atOnce s = some (.error e, s') := by
  change (p.bind f).atOnce s = _
  induction p generalizing s with
  | done r =>
    cases h
    rfl
  | look next ih => exact ih s h
  | act change next ih => exact ih h
  | exchange q next ih => cases h

/-- Under any discipline, a program that comes to something at once leads to that. -/
theorem wp_of_atOnce {p : Program α} {s' : Scene} {r : Except Failure α}
    (h : p.atOnce s = some (r, s')) : p.wp D Q w s ↔ Q r w s' := by
  induction p generalizing s with
  | done r =>
    cases h
    rfl
  | look next ih => exact ih s h
  | act change next ih => exact ih h
  | exchange q next ih => cases h

/-! ### Programs that avoid something -/

/-- None of the steps of the program is barred and none of its requests is claimed by someone
else, in whatever scenes with a place for the cursor `ref` it looks at. -/
def Avoids (ref : Nat) (bars : Change → Prop) (claims : Request → Prop) : Program α → Prop
  | .done _ => True
  | .look next => ∀ s : Scene, ref < s.cursorCount → Avoids ref bars claims (next s)
  | .act change next => ¬ bars change ∧ Avoids ref bars claims next
  | .exchange q next => ¬ claims q ∧ ∀ reply, Avoids ref bars claims (next reply)

/-- What avoids more avoids less. -/
theorem Avoids.weaken {ref : Nat} {bars bars' : Change → Prop} {claims claims' : Request → Prop}
    {p : Program α} (h : p.Avoids ref bars claims) (hbars : ∀ change, bars' change → bars change)
    (hclaims : ∀ q, claims' q → claims q) : p.Avoids ref bars' claims' := by
  induction p with
  | done r => trivial
  | look next ih => exact fun s hs => ih s (h s hs)
  | act change next ih => exact ⟨fun hb => h.1 (hbars change hb), ih h.2⟩
  | exchange q next ih => exact ⟨fun hq => h.1 (hclaims q hq), fun reply => ih reply (h.2 reply)⟩

end Program

/-- Whether a step concerns the cursor at a place. -/
def Change.touches (ref : Nat) : Change → Prop
  | .cursor r _ => r = ref
  | _ => False

/-- The cursors keep their places. -/
theorem Scene.cursorCount_le_enact (s : Scene) (change : Change) :
    s.cursorCount ≤ (s.enact change).cursorCount := by
  cases change with
  | cursorMade => exact Nat.le_succ _
  | elapsed _ => exact Nat.le_refl _
  | logged _ _ => exact Nat.le_refl _
  | cursor _ _ => exact Nat.le_refl _
  | sessionMade => exact Nat.le_refl _
  | transportClosed => exact Nat.le_refl _
  | noted _ _ => exact Nat.le_refl _

/-- A step that does not concern a cursor leaves its state as it is. -/
theorem Scene.enact_cursors_of_not_touches {s : Scene} {ref : Nat} {change : Change}
    (hplaced : ref < s.cursorCount) (h : ¬ change.touches ref) :
    (s.enact change).cursors ref = s.cursors ref := by
  cases change with
  | cursorMade => exact s.addCursor_cursors_of_ne (Nat.ne_of_lt hplaced)
  | cursor r change => exact s.changeCursor_cursors_of_ne r change fun heq => h heq.symm
  | elapsed _ => rfl
  | logged _ _ => rfl
  | sessionMade => rfl
  | transportClosed => rfl
  | noted _ _ => rfl

/-- Whether a step writes to a journal. -/
def Change.writes (slot : Nat) : Change → Prop
  | .noted r _ => r = slot
  | _ => False

end AqlClient
