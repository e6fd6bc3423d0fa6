import AqlClient.Proofs.Program.Logic

/-!
# Invariants of programs

A program upholds an invariant if it ends where the invariant holds when it starts where it does,
whether it ends well or not (`Program.Upholds`). What a program may fail with is part of this:
there is a kind of failures to which it keeps. There is one lemma for each way of putting programs
together, so that a program that is made of others upholds what they do.
-/

namespace AqlClient

namespace Program

variable {α β ω : Type} {D : Discipline ω} {I : ω → Scene → Prop} {E : Failure → Prop} {w : ω}
  {s : Scene}

/-- How a program ends that upholds an invariant: the invariant holds, and a failure is of a
certain kind. -/
def Kept (I : ω → Scene → Prop) (E : Failure → Prop) (r : Except Failure α) (w : ω)
    (s : Scene) : Prop :=
  I w s ∧ ∀ e, r = .error e → E e

/-- **A program upholds an invariant** under a discipline, and keeps to a kind of failures. -/
def Upholds (D : Discipline ω) (I : ω → Scene → Prop) (E : Failure → Prop)
    (p : Program α) : Prop :=
  ∀ ⦃w s⦄, I w s → p.wp D (Kept I E) w s

theorem kept_ok {a : α} (h : I w s) : Kept I E (.ok a) w s := ⟨h, fun _ he => nomatch he⟩

theorem kept_error {e : Failure} (h : I w s) (he : E e) :
    Kept I E (.error e : Except Failure α) w s := by
  refine ⟨h, ?_⟩
  rintro _ ⟨⟩
  exact he

/-- Where all failures will do, only the invariant counts. -/
theorem kept_iff {r : Except Failure α} (hE : ∀ e, E e) : Kept I E r w s ↔ I w s :=
  ⟨fun h => h.1, fun h => ⟨h, fun e _ => hE e⟩⟩

/-- **One program after another:** the second one starts where the invariant holds. -/
theorem wp_kept_seq {p : Program α} {f : α → Program β} (hp : p.wp D (Kept I E) w s)
    (hf : ∀ a w s, I w s → (f a).wp D (Kept I E) w s) : (p >>= f).wp D (Kept I E) w s :=
  wp_seq hp (fun a w s h => hf a w s h.1) fun e _ _ h => kept_error h.1 (h.2 e rfl)

theorem upholds_pure (a : α) : (pure a : Program α).Upholds D I E := fun _ _ h => kept_ok h

theorem upholds_throw {e : Failure} (he : E e) : (throw e : Program α).Upholds D I E :=
  fun _ _ h => kept_error h he

theorem upholds_ofExcept {r : Except Failure α} (hr : ∀ e, r = .error e → E e) :
    (ofExcept r).Upholds D I E :=
  fun _ _ h => ⟨h, hr⟩

theorem upholds_view (f : Scene → α) : (view f).Upholds D I E := fun _ _ h => kept_ok h

theorem upholds_bind {p : Program α} {f : α → Program β} (hp : p.Upholds D I E)
    (hf : ∀ a, (f a).Upholds D I E) : (p >>= f).Upholds D I E :=
  fun _ _ h => wp_kept_seq (hp h) fun a _ _ h => hf a h

/-- What a program fails with is known to the one that goes on behind it. -/
theorem upholds_attempt_bind {p : Program α} {k : Except Failure α → Program β}
    (hp : p.Upholds D I E) (hok : ∀ a, (k (.ok a)).Upholds D I E)
    (herror : ∀ e, E e → (k (.error e)).Upholds D I E) : (p.attempt >>= k).Upholds D I E := by
  intro w s h
  rw [wp_attempt_bind]
  refine wp_mono (hp h) fun r w s hr => ?_
  cases r with
  | ok a => exact hok a hr.1
  | error e => exact herror e (hr.2 e rfl) hr.1

theorem upholds_attempt {p : Program α} (hp : p.Upholds D I E) : p.attempt.Upholds D I E := by
  intro w s h
  rw [wp_attempt]
  exact wp_mono (hp h) fun r w s hr => kept_ok hr.1

/-- A program that avoids some steps and requests upholds what the others keep. -/
theorem Avoids.upholds {ref : Nat} {bars : Change → Prop} {claims : Request → Prop}
    {p : Program α} (hp : p.Avoids ref bars claims)
    (hplaced : ∀ ⦃w s⦄, I w s → ref < s.cursorCount)
    (hact : ∀ ⦃w s change⦄, ¬ bars change → I w s → I w (s.enact change))
    (hexchange : ∀ ⦃w s q⦄, ¬ claims q → I w s →
      D.may w s q ∧ ∀ w' reply s', D.back w s q w' reply s' → I w' s')
    (hE : ∀ e, E e) : p.Upholds D I E := by
  induction p with
  | done r => exact fun w s h => ⟨h, fun e _ => hE e⟩
  | look next ih => exact fun w s h => ih s (hp s (hplaced h)) h
  | act change next ih => exact fun w s h => ih hp.2 (hact hp.1 h)
  | exchange q next ih =>
    intro w s h
    obtain ⟨hmay, hback⟩ := hexchange hp.1 h
    exact ⟨hmay, fun w' reply s' hreply => ih reply (hp.2 reply) (hback w' reply s' hreply)⟩

end Program

end AqlClient
