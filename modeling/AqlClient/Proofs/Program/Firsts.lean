import AqlClient.Gateway.Exchange
import AqlClient.Proofs.Program.Stretches

/-!
# The request that a program begins with

On its own, a program that sends anything leaves a first request behind (`Program.Begins`). Which
one this is, is decided before anything has come back, so that it can be read off the program and
the scene (`Program.opening`, `Program.begins_iff`). What comes behind the first request has no part
in it, and neither has the log.

A call begins with its request if its payload can be written, and is over at once if it cannot.
-/

namespace AqlClient

variable {α β : Type}

namespace Program

/-- The first request of a program, from some scene on. -/
def opening : Program α → Scene → Option Request
  | done _, _ => none
  | look next, s => (next s).opening s
  | act change next, s => next.opening (s.enact change)
  | exchange q _, _ => some q

/-- **A program begins with a request:** on its own, it sends this one first. -/
def Begins (p : Program α) (s : Scene) (q : Request) : Prop :=
  ∃ later, (p.run s).2.sent = s.sent ++ q :: later

/-- What a program sends on its own are its first request and, if there is one, further ones. -/
theorem sent_run (p : Program α) (s : Scene) :
    ∃ later, (p.run s).2.sent = s.sent ++ ((p.opening s).toList ++ later) ∧
      (p.opening s = none → later = []) := by
  -- up to the first exchange nothing is sent; behind it, it does not matter what is
  have hgrows : ∀ (p : Program α) (s : Scene), ∃ later, (p.run s).2.sent = s.sent ++ later := by
    intro p
    induction p with
    | done r => exact fun s => ⟨[], (List.append_nil _).symm⟩
    | look next ih => exact fun s => ih s s
    | act change next ih =>
      intro s
      obtain ⟨later, hlater⟩ := ih (s.enact change)
      exact ⟨later, by rw [← s.enact_sent change]; exact hlater⟩
    | exchange q next ih =>
      intro s
      obtain ⟨later, hlater⟩ := ih (s.play q).1 (s.play q).2
      have hplay : (s.play q).2.sent = s.sent ++ [q] := s.send_sent q
      refine ⟨q :: later, ?_⟩
      rw [hplay, List.append_assoc] at hlater
      exact hlater
  induction p generalizing s with
  | done r => exact ⟨[], (List.append_nil _).symm, fun _ => rfl⟩
  | look next ih => exact ih s s
  | act change next ih =>
    obtain ⟨later, hlater, hnone⟩ := ih (s.enact change)
    exact ⟨later, by rw [← s.enact_sent change]; exact hlater, hnone⟩
  | exchange q next _ =>
    obtain ⟨later, hlater⟩ := hgrows (next (s.play q).1) (s.play q).2
    have hplay : (s.play q).2.sent = s.sent ++ [q] := s.send_sent q
    refine ⟨later, ?_, fun h => by cases h⟩
    rw [hplay, List.append_assoc] at hlater
    exact hlater

/-- **The first request can be read off the program.** -/
theorem begins_iff {p : Program α} {s : Scene} {q : Request} :
    p.Begins s q ↔ p.opening s = some q := by
  obtain ⟨later, hlater, hnone⟩ := p.sent_run s
  unfold Begins
  rw [hlater]
  cases h : p.opening s with
  | none => simp [hnone h]
  | some q' => simp [eq_comm]

/-- What comes behind its first request has no part in what a program begins with. -/
theorem opening_bind {p : Program α} {s : Scene} {q : Request} (h : p.opening s = some q)
    (f : α → Program β) : (p >>= f).opening s = some q := by
  change (p.bind f).opening s = some q
  induction p generalizing s with
  | done r => cases h
  | look next ih => exact ih s h
  | act change next ih => exact ih h
  | exchange q' next _ => exact h

/-- A result that is known already has to be there before anything is sent. -/
theorem of_opening_ofExcept {r : Except Failure α} {f : α → Program β} {s : Scene} {q : Request}
    (h : (ofExcept r >>= f).opening s = some q) : ∃ a, r = .ok a ∧ (f a).opening s = some q := by
  cases r with
  | ok a => exact ⟨a, rfl, h⟩
  | error e => cases h

/-- What a program logs has no part in what it begins with. -/
theorem opening_lines {ι : Type} {items : List ι} {level : LogLevel} {text : ι → String}
    {k : Unit → Program β} {q? : Option Request} (h : ∀ s, (k ()).opening s = q?) (s : Scene) :
    ((each items fun a => record level (text a)) >>= k).opening s = q? := by
  induction items generalizing s with
  | nil => exact h s
  | cons a rest ih => exact ih _

end Program

namespace Gateway

variable {g : Gateway} {mode : Mode} {call : Call} {body : Option String}

/-- **A call begins with its request.** -/
theorem opening_request (hchannel : g.channel = some mode)
    (hbody : call.payload.encodePayload = .ok body) (s : Scene) :
    (g.request mode call).opening s = some (g.requestFor call body) := by
  have hexchange : (g.exchange mode call).opening s = some (g.requestFor call body) := by
    unfold Gateway.exchange
    rw [if_neg fun hne => hne hchannel, hbody]
    exact Program.opening_lines (fun _ => rfl) s
  exact Program.opening_bind hexchange _

/-- Whatever a call begins with is its request. -/
theorem eq_of_opening {k : Entries → Program β} {s : Scene} {q : Request}
    (h : (g.request mode call >>= k).opening s = some q) :
    ∃ body, call.payload.encodePayload = .ok body ∧ q = g.requestFor call body := by
  by_cases hchannel : g.channel = some mode
  · cases hbody : call.payload.encodePayload with
    | ok body =>
      rw [Program.opening_bind (opening_request hchannel hbody s)] at h
      exact ⟨body, rfl, (Option.some.inj h).symm⟩
    | error e =>
      -- a payload that cannot be written is refused before anything is sent
      have hnone : (g.request mode call >>= k).opening s = none := by
        unfold Gateway.request Gateway.exchange
        rw [if_neg fun hne => hne hchannel, hbody]
        rfl
      rw [hnone] at h
      cases h
  · have hnone : (g.request mode call >>= k).opening s = none := by
      unfold Gateway.request Gateway.exchange
      rw [if_pos hchannel]
      rfl
    rw [hnone] at h
    cases h

end Gateway

end AqlClient
