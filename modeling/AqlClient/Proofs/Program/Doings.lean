import AqlClient.Proofs.Program.Answer
import AqlClient.Proofs.Program.Stretches

/-!
# What a program has done

The exchanges of a program can be watched, and how often it closes a transport (`Doings`). The
others may do whatever they like while a reply is on its way (`Discipline.watched`): the transports
that they close meanwhile are not counted. On its own a program leaves its requests in the history
and the closes in the count of the scene (`Program.run_watched`).

A call whose payload can be written makes one exchange, and comes to what is read from the reply
(`Gateway.wp_request_watched`).
-/

namespace AqlClient

variable {α : Type}

/-- An exchange: the request, the reply, and the time until it was back. -/
structure Exchange where
  request : Request
  reply : Except Failure Response
  elapsed : Int

/-- **What a program has done** up to its latest exchange: its exchanges, and how often it has
closed a transport. All closes that had been counted in the scene by then, whoever made them, are
kept too. -/
structure Doings where
  exchanges : List Exchange
  closes : Int
  counted : Int

namespace Doings

/-- A program that begins in some scene has done nothing. -/
def none (s : Scene) : Doings := ⟨[], 0, s.closes⟩

/-- How often a program has closed a transport by the time it comes to a scene. -/
def closesBy (w : Doings) (s : Scene) : Int := w.closes + (s.closes - w.counted)

/-- One more exchange, the reply of which comes back to a scene. -/
def onward (w : Doings) (s : Scene) (q : Request) (reply : Except Failure Response)
    (back : Scene) : Doings :=
  ⟨w.exchanges ++ [⟨q, reply, back.now - s.now⟩], w.closesBy s, back.closes⟩

theorem closesBy_none (s : Scene) : (none s).closesBy s = 0 := by
  unfold none closesBy
  dsimp only
  omega

/-- What the others have closed during an exchange is not counted. -/
theorem closesBy_onward (w : Doings) (s : Scene) (q : Request) (reply : Except Failure Response)
    (back : Scene) : (w.onward s q reply back).closesBy back = w.closesBy s := by
  unfold onward closesBy
  dsimp only
  omega

theorem closesBy_closeTransport (w : Doings) (s : Scene) :
    w.closesBy s.closeTransport = w.closesBy s + 1 := by
  unfold closesBy Scene.closeTransport
  dsimp only
  omega

end Doings

/-- **Whatever happens at an exchange,** it is watched. -/
def Discipline.watched : Discipline Doings where
  may _ _ _ := True
  back w s q w' reply s' := w' = w.onward s q reply s'

/-- What a program has done since some scene agrees with the scene that it has come to. -/
structure Doings.Tallies (s₀ : Scene) (w : Doings) (s : Scene) : Prop where
  sent : s.sent = s₀.sent ++ w.exchanges.map Exchange.request
  counted : w.counted = s₀.closes + w.closes

namespace Doings.Tallies

variable {s₀ s : Scene} {w : Doings}

theorem begin (s : Scene) : Doings.Tallies s (.none s) s :=
  ⟨(List.append_nil _).symm, (Int.add_zero _).symm⟩

theorem closes (h : w.Tallies s₀ s) : s.closes = s₀.closes + w.closesBy s := by
  have hcounted := h.counted
  unfold closesBy
  omega

theorem enact (h : w.Tallies s₀ s) (change : Change) : w.Tallies s₀ (s.enact change) where
  sent := (s.enact_sent change).trans h.sent
  counted := h.counted

theorem play (h : w.Tallies s₀ s) (q : Request) :
    (w.onward s q (s.play q).1 (s.play q).2).Tallies s₀ (s.play q).2 where
  sent := by
    show (s.send q).2.sent = s₀.sent ++ (w.exchanges ++ [_]).map Exchange.request
    rw [s.send_sent, h.sent, List.map_append, List.append_assoc]
    rfl
  counted := h.closes

end Doings.Tallies

/-- **On its own, a program leaves in the scene what it has done.** -/
theorem Program.run_watched {p : Program α} {Q : Except Failure α → Doings → Scene → Prop}
    {s : Scene} (h : p.wp .watched Q (.none s) s) :
    ∃ w : Doings, Q (p.run s).1 w (p.run s).2 ∧
      (p.run s).2.sent = s.sent ++ w.exchanges.map Exchange.request ∧
      (p.run s).2.closes = s.closes + w.closesBy (p.run s).2 := by
  -- on the steps of the program, from wherever in its course
  have hcourse : ∀ (p : Program α) (w : Doings) (s' : Scene), w.Tallies s s' →
      p.wp .watched Q w s' → ∃ w', Q (p.run s').1 w' (p.run s').2 ∧ w'.Tallies s (p.run s').2 := by
    intro p
    induction p with
    | done r => exact fun w s' ht h => ⟨w, h, ht⟩
    | look next ih => exact fun w s' ht h => ih s' w s' ht h
    | act change next ih => exact fun w s' ht h => ih w _ (ht.enact change) h
    | exchange q next ih =>
      intro w s' ht h
      exact ih _ _ _ (ht.play q) (h.2 _ _ (s'.play q).2 rfl)
  obtain ⟨w, hend, htallies⟩ := hcourse p _ s (.begin s) h
  exact ⟨w, hend, htallies.sent, htallies.closes⟩

/-! ### Calls -/

namespace Gateway

variable {g : Gateway} {mode : Mode} {call : Call} {body : Option String} {w : Doings} {s : Scene}

/-- What a call leads to: its request has been sent and the reply has come back after some time, and
nothing else has happened but to the log. -/
def Replied (g : Gateway) (call : Call) (body : Option String) (w : Doings) (s : Scene)
    (reply : Except Failure Response) (w' : Doings) (s' : Scene) : Prop :=
  ∃ elapsed, w'.exchanges = w.exchanges ++ [⟨g.requestFor call body, reply, elapsed⟩] ∧
    s'.now = s.now + elapsed ∧ w'.closesBy s' = w.closesBy s

theorem logless_replied (reply : Except Failure Response) :
    Logless (g.Replied call body w s reply) :=
  fun _ _ _ _ h => h

variable (hchannel : g.channel = some mode) (hbody : call.payload.encodePayload = .ok body)

include hchannel hbody

theorem wp_exchange_watched :
    (g.exchange mode call).wp .watched (fun r w' s' => g.Replied call body w s r w' s') w s := by
  unfold exchange
  rw [if_neg fun hne => hne hchannel, Program.wp_bind, Program.wp_ofExcept, hbody,
    Program.chain_ok]
  have hlogless : Logless fun w' s' => w' = w ∧ s'.unlogged = s.unlogged := fun _ _ _ _ h => h
  refine Program.wp_lines_bind hlogless _ _ _ ⟨rfl, rfl⟩ ?_
  rintro w s₁ ⟨rfl, h₁⟩
  rw [Program.wp_bind, Program.wp_send]
  refine ⟨trivial, ?_⟩
  rintro _ reply back rfl
  -- the log has no part in what has been done
  have hnow : s₁.now = s.now := (congrArg Scene.now h₁ :)
  have hcloses : s₁.closes = s.closes := (congrArg Scene.closes h₁ :)
  have hreplied : g.Replied call body w s reply
      (w.onward s₁ (g.requestFor call body) reply back) back := by
    refine ⟨back.now - s.now, ?_, by omega, ?_⟩
    · unfold Doings.onward
      rw [hnow]
    · rw [w.closesBy_onward]
      unfold Doings.closesBy
      rw [hcloses]
  cases reply with
  | error e => exact hreplied
  | ok response =>
    rw [Program.chain_ok]
    exact Program.wp_lines_bind (logless_replied _) _ _ _ hreplied fun _ _ h => h

/-- **A call makes one exchange,** and comes to what is read from the reply. -/
theorem wp_request_watched : (g.request mode call).wp .watched (fun r w' s' =>
    ∃ reply, r = g.reading call reply ∧ g.Replied call body w s reply w' s') w s := by
  unfold request
  refine Program.wp_seq (wp_exchange_watched hchannel hbody) ?_ ?_
  · intro response w' s' hreplied
    unfold readEnvelope
    cases hread : Envelope.read response (some (g.callDescription call)) with
    | ok envelope => exact ⟨.ok response, hread.symm, hreplied⟩
    | error e =>
      refine Program.wp_lines_bind (logless_replied _) _ _ _ hreplied fun _ _ h => ?_
      exact ⟨.ok response, hread.symm, h⟩
  · exact fun e _ _ hreplied => ⟨.error e, rfl, hreplied⟩

end Gateway

end AqlClient
