import AqlClient.Proofs.Program.Sending

/-!
# Where requests come from

A program comes to a point (`Program.ComesTo`), whatever has come back from the exchanges before:
what is left of it there is a program as well. A request that a program may send (`Program.Asks`)
comes from a point of some kind if the program comes to such a point and sends the request from
there, at the same time (`Program.SendsFrom`).
-/

namespace AqlClient

namespace Program

variable {α β : Type} {p p₁ p₂ : Program α} {s s₁ s₂ : Scene} {q : Request}

/-- **A program comes to a point:** what is left of it, and in which scene. Anything may come back
from an exchange, and to any scene. -/
inductive ComesTo : Program α → Scene → Program α → Scene → Prop
  | here (p : Program α) (s : Scene) : ComesTo p s p s
  | look {next : Scene → Program α} {p' : Program α} {s s' : Scene} :
      ComesTo (next s) s p' s' → ComesTo (look next) s p' s'
  | act {change : Change} {next p' : Program α} {s s' : Scene} :
      ComesTo next (s.enact change) p' s' → ComesTo (act change next) s p' s'
  | exchange {q : Request} {next : Except Failure Response → Program α} {p' : Program α}
      {s s₁ s' : Scene} (reply : Except Failure Response) :
      ComesTo (next reply) s₁ p' s' → ComesTo (exchange q next) s p' s'

/-- **A request that a program may send,** and the scene in which it does. -/
def Asks (p : Program α) (s : Scene) (q : Request) (s' : Scene) : Prop :=
  ∃ next, p.ComesTo s (exchange q next) s'

namespace ComesTo

theorem trans (h : p.ComesTo s p₁ s₁) (h' : p₁.ComesTo s₁ p₂ s₂) : p.ComesTo s p₂ s₂ := by
  induction h with
  | here => exact h'
  | look _ ih => exact .look (ih h')
  | act _ ih => exact .act (ih h')
  | exchange reply _ ih => exact .exchange reply (ih h')

/-- Whatever comes behind a program comes behind what is left of it. -/
theorem bind (h : p.ComesTo s p₁ s₁) (f : α → Program β) : (p >>= f).ComesTo s (p₁ >>= f) s₁ := by
  induction h with
  | here => exact .here _ _
  | look _ ih => exact .look ih
  | act _ ih => exact .act ih
  | exchange reply _ ih => exact .exchange reply ih

theorem attempt (h : p.ComesTo s p₁ s₁) : p.attempt.ComesTo s p₁.attempt s₁ := by
  induction h with
  | here => exact .here _ _
  | look _ ih => exact .look ih
  | act _ ih => exact .act ih
  | exchange reply _ ih => exact .exchange reply ih

theorem asks (h : p.ComesTo s p₁ s₁) (hq : p₁.Asks s₁ q s₂) : p.Asks s q s₂ := by
  obtain ⟨next, hnext⟩ := hq
  exact ⟨next, h.trans hnext⟩

/-- What is known of all ends of a program is known of those that it comes to. -/
theorem of_wp {may : Int → Request → Prop} {Q : Except Failure α → Unit → Scene → Prop}
    {r : Except Failure α} (h : p.ComesTo s (done r) s₁) (hwp : p.wp (.timed may) Q () s) :
    Q r () s₁ := by
  generalize hend : done r = p₁ at h
  induction h with
  | here =>
    subst hend
    exact hwp
  | look _ ih => exact ih hwp hend
  | act _ ih => exact ih hwp hend
  | exchange reply _ ih => exact ih (hwp.2 () reply _ trivial) hend

end ComesTo

namespace Asks

/-- A request of a sequence is one of its first part, or one of what comes behind it. -/
theorem of_bind {f : α → Program β} (h : (p >>= f).Asks s q s₂) :
    p.Asks s q s₂ ∨ ∃ a s₁, p.ComesTo s (done (.ok a)) s₁ ∧ (f a).Asks s₁ q s₂ := by
  change (p.bind f).Asks s q s₂ at h
  induction p generalizing s with
  | done r =>
    cases r with
    | ok a => exact .inr ⟨a, s, .here _ _, h⟩
    | error e =>
      obtain ⟨next, hnext⟩ := h
      cases hnext
  | look next ih =>
    obtain ⟨next', hnext⟩ := h
    cases hnext with
    | look hnext =>
      obtain ⟨next'', hfirst⟩ | ⟨a, s₁, hdone, hlater⟩ := ih s ⟨next', hnext⟩
      · exact .inl ⟨next'', .look hfirst⟩
      · exact .inr ⟨a, s₁, .look hdone, hlater⟩
  | act change next ih =>
    obtain ⟨next', hnext⟩ := h
    cases hnext with
    | act hnext =>
      obtain ⟨next'', hfirst⟩ | ⟨a, s₁, hdone, hlater⟩ := ih ⟨next', hnext⟩
      · exact .inl ⟨next'', .act hfirst⟩
      · exact .inr ⟨a, s₁, .act hdone, hlater⟩
  | exchange q' next ih =>
    obtain ⟨next', hnext⟩ := h
    cases hnext with
    | here => exact .inl ⟨next, .here _ _⟩
    | exchange reply hnext =>
      obtain ⟨next'', hfirst⟩ | ⟨a, s₁, hdone, hlater⟩ := ih reply ⟨next', hnext⟩
      · exact .inl ⟨next'', .exchange reply hfirst⟩
      · exact .inr ⟨a, s₁, .exchange reply hdone, hlater⟩

theorem of_attempt (h : p.attempt.Asks s q s₂) : p.Asks s q s₂ := by
  induction p generalizing s with
  | done r =>
    obtain ⟨next, hnext⟩ := h
    cases hnext
  | look next ih =>
    obtain ⟨next', hnext⟩ := h
    cases hnext with
    | look hnext => exact (ComesTo.look (.here _ _)).asks (ih s ⟨next', hnext⟩)
  | act change next ih =>
    obtain ⟨next', hnext⟩ := h
    cases hnext with
    | act hnext => exact (ComesTo.act (.here _ _)).asks (ih ⟨next', hnext⟩)
  | exchange q' next ih =>
    obtain ⟨next', hnext⟩ := h
    cases hnext with
    | here => exact ⟨next, .here _ _⟩
    | exchange reply hnext =>
      exact (ComesTo.exchange reply (.here _ _)).asks (ih reply ⟨next', hnext⟩)

/-- What a program may send is of the kind that all its requests are of. -/
theorem of_sends {may : Int → Request → Prop} (h : p.Asks s q s₂) (hsends : p.Sends may s) :
    may s₂.now q := by
  obtain ⟨next, hnext⟩ := h
  unfold Sends at hsends
  generalize hend : exchange q next = p₁ at hnext
  induction hnext with
  | here =>
    subst hend
    exact hsends.1
  | look _ ih => exact ih hsends hend
  | act _ ih => exact ih hsends hend
  | exchange reply _ ih => exact ih (hsends.2 () reply _ trivial) hend

end Asks

/-- **Whatever a program sends** is of one kind, or it comes from a point of another kind, to which
the program has come at that time. -/
def SendsFrom (V : Program α → Prop) (other : Request → Prop) (p : Program α) (s : Scene) : Prop :=
  ∀ q s₂, p.Asks s q s₂ →
    other q ∨ ∃ p' s', V p' ∧ p.ComesTo s p' s' ∧ s'.now = s₂.now ∧ p'.Asks s' q s₂

namespace SendsFrom

variable {V : Program α → Prop} {other : Request → Prop}

theorem of_sends (h : p.Sends (fun _ q => other q) s) : p.SendsFrom V other s :=
  fun _ _ hq => .inl (hq.of_sends h)

theorem bind {V' : Program β → Prop} {f : α → Program β} (hp : p.SendsFrom V other s)
    (hV : ∀ p', V p' → V' (p' >>= f))
    (hf : ∀ a s₁, p.ComesTo s (done (.ok a)) s₁ → (f a).SendsFrom V' other s₁) :
    (p >>= f).SendsFrom V' other s := by
  intro q s₂ hq
  obtain hfirst | ⟨a, s₁, hdone, hlater⟩ := hq.of_bind
  · obtain hother | ⟨p', s', hat, hpoint, hnow, next, hasks⟩ := hp q s₂ hfirst
    · exact .inl hother
    · exact .inr ⟨p' >>= f, s', hV p' hat, hpoint.bind f, hnow, _, hasks.bind f⟩
  · obtain hother | ⟨p', s', hat, hpoint, hnow, hasks⟩ := hf a s₁ hdone q s₂ hlater
    · exact .inl hother
    · exact .inr ⟨p', s', hat, (hdone.bind f).trans hpoint, hnow, hasks⟩

/-- Reckoning with the time sends nothing. -/
theorem byClock {f : Int → Except Failure β} {k : β → Program α}
    (hk : ∀ b, f s.now = .ok b → (k b).SendsFrom V other s) :
    (now >>= fun time => ofExcept (f time) >>= k).SendsFrom V other s := by
  refine bind (p := now) (V := fun _ => False) (of_sends trivial) (fun _ hfalse => hfalse.elim) ?_
  intro time s₁ htime
  cases htime with
  | look hdone =>
    cases hdone
    refine bind (V := fun _ => False) (of_sends trivial) (fun _ hfalse => hfalse.elim) ?_
    intro b s₂ hb
    have hwp : (ofExcept (f s.now)).wp (.timed fun _ _ => True)
        (fun r _ s' => r = f s.now ∧ s' = s) () s := ⟨rfl, rfl⟩
    have hend := hb.of_wp hwp
    rw [hend.2]
    exact hk b hend.1.symm

theorem mono {V' : Program α → Prop} (h : p.SendsFrom V other s) (hV : ∀ p', V p' → V' p') :
    p.SendsFrom V' other s := by
  intro q s₂ hq
  obtain hother | ⟨p', s', hat, hpoint⟩ := h q s₂ hq
  · exact .inl hother
  · exact .inr ⟨p', s', hV p' hat, hpoint⟩

theorem attempt {V' : Program (Except Failure α) → Prop} (hp : p.SendsFrom V other s)
    (hV : ∀ p', V p' → V' p'.attempt) : p.attempt.SendsFrom V' other s := by
  intro q s₂ hq
  obtain hother | ⟨p', s', hat, hpoint, hnow, next, hasks⟩ := hp q s₂ hq.of_attempt
  · exact .inl hother
  · exact .inr ⟨p'.attempt, s', hV p' hat, hpoint.attempt, hnow, _, hasks.attempt⟩

end SendsFrom

end Program

end AqlClient
